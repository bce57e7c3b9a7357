/-
What the channels run on: how large a destination in memory can be, how much moves between memory
and a file at a time, how large a file can be, and where the file system sees data in it. All of it
differs from one machine to the next; what is given here is one machine that is like many.
-/
import ObjectChannel.Bytes
import ObjectChannel.Capacity
import ObjectChannel.Failure

namespace ObjectChannel

/-- The answer of a file system that knows of no gaps in its files: all of a file is data (3), and
the first gap is behind its end (4). At the end there is nothing to find any more. -/
def Platform.gapless (whence : Int) (content : Bytes) (offset : Int) : Except SystemFault Nat :=
  if offset < 0 ∨ content.size ≤ offset then .error .nothingThere
  else .ok (if whence = 3 then offset.toNat else content.size)

theorem defaultRoom_le : ((17179869184 : Nat) : Int) ≤ Capacity.maxFresh := by decide

theorem defaultTransfer_pos : 0 < 2147479552 := by decide

theorem defaultFile_le : ((17592186040320 : Nat) : Int) ≤ Capacity.maxSize := by decide

structure Platform where
  /-- The largest destination in memory that there is room for. -/
  room : Nat := 17179869184
  /-- The most bytes that one transfer between memory and a file moves. -/
  transferMax : Nat := 2147479552
  /-- The most bytes that a file can have, and the furthest that its cursor can go. -/
  fileMax : Nat := 17592186040320
  /-- How many levels of lists and objects are followed where a value is written. -/
  nesting : Nat := 985
  /-- Where the next data (3) or the next gap (4) is in a file of some content, from an offset on. -/
  locate : Int → Bytes → Int → Except SystemFault Nat := Platform.gapless
  room_le : (room : Int) ≤ Capacity.maxFresh := by first | exact defaultRoom_le | decide
  transferMax_pos : 0 < transferMax := by first | exact defaultTransfer_pos | decide
  fileMax_le : (fileMax : Int) ≤ Capacity.maxSize := by first | exact defaultFile_le | decide

namespace Platform

instance : Inhabited Platform := ⟨{}⟩

variable (p : Platform)

/-- How many of some bytes one transfer moves. -/
def moved (n : Nat) : Nat := min n p.transferMax

/-- The destination that a number asks for, where `largest` is the largest that counts as one. It may
be below zero, too large to count as a size, or more than there is room for. -/
def capacity (largest n : Int) : Except Failure Nat :=
  if !Capacity.fitsWord n || largest < n then .error .outOfRange
  else if n < 0 then .error .negativeSize
  else if p.room < n then .error .noMemory
  else .ok n.toNat

/-- There is room for as many bytes as this. -/
def HasRoom (n : Int) : Prop := 0 ≤ n ∧ n ≤ p.room

instance (n : Int) : Decidable (p.HasRoom n) := inferInstanceAs (Decidable (_ ∧ _))

variable {p} {n largest : Int}

theorem HasRoom.le_maxFresh (h : p.HasRoom n) : n ≤ Capacity.maxFresh := Int.le_trans h.2 p.room_le

theorem HasRoom.le_maxSize (h : p.HasRoom n) : n ≤ Capacity.maxSize :=
  Int.le_trans h.le_maxFresh (by decide)

theorem HasRoom.fitsWord (h : p.HasRoom n) : Capacity.fitsWord n = true := by
  obtain ⟨k, rfl⟩ := Int.eq_ofNat_of_zero_le h.1
  exact Capacity.fitsWord_natCast h.le_maxSize

/-- Where there is room, the destination can be made. -/
theorem HasRoom.capacity (h : p.HasRoom n) (hlargest : n ≤ largest) :
    p.capacity largest n = .ok n.toNat := by
  have hlargest : ¬largest < n := Int.not_lt.mpr hlargest
  have hnegative : ¬n < 0 := Int.not_lt.mpr h.1
  have hroom : ¬(p.room : Int) < n := Int.not_lt.mpr h.2
  simp [Platform.capacity, h.fitsWord, hlargest, hnegative, hroom]

/-- A destination that can be made has as many bytes as were asked for. -/
theorem of_capacity_ok {k : Nat} (h : p.capacity largest n = .ok k) : p.HasRoom n ∧ k = n.toNat := by
  unfold Platform.capacity at h
  split at h
  · cases h
  · split at h
    · cases h
    · next hnegative =>
      split at h
      · cases h
      · next hroom =>
        cases h
        exact ⟨⟨Int.not_lt.mp hnegative, Int.not_lt.mp hroom⟩, rfl⟩

end Platform
end ObjectChannel
