/-
A file of bytes that may be read and written at any place, given by its content and its cursor
alone. It has no limits: any number is a size or a position, and all that is asked for moves at once.

What a platform makes of an operation is a matter of its own: it refuses what it has no words or no
room for, moves less than was asked for at a time, and answers itself where data and gaps are. On its
platform a mirror file does as the file of bytes does.
-/
import ObjectChannel.LocalFile
import ObjectChannel.Proofs.Simulation

namespace ObjectChannel

namespace Operation

/-- The operation acts on the mirror file alone. -/
def isOnFile : Operation → Bool
  | .read _ | .readInto _ | .write _ | .truncate _ | .seek .. | .setPosition _ | .position | .tell
  | .size | .readable | .writable => true
  | _ => false

/-- How many bytes the operation asks to be moved at a time. -/
def amount : Operation → Nat
  | .read (some n) => n.toNat
  | .readInto buffer => buffer.size
  | .write (some data) => data.size
  | _ => 0

end Operation

structure ByteFile where
  content : List UInt8
  cursor : Nat

namespace ByteFile

/-- A file as the options open it: at its end for appending, else at its start. -/
def opened (os : OpenOptions) (content : List UInt8) : ByteFile where
  content := content
  cursor := if os.isAppending then content.length else 0

/-- The bytes behind the cursor. -/
def rest (f : ByteFile) : List UInt8 := f.content.drop f.cursor

/-- The cursor has moved on by `n` bytes. -/
def advance (f : ByteFile) (n : Nat) : ByteFile := { f with cursor := f.cursor + n }

/-- How many of `n` bytes move at a time: all of them, unless `most` is given and is less. -/
def moved (most : Option Nat) (n : Nat) : Nat := most.elim n (min n)

/-- The content with some bytes laid over it, and zeros in a gap before them. -/
def overlay (content : List UInt8) (pos : Nat) (data : List UInt8) : List UInt8 :=
  content.take pos ++ List.replicate (pos - content.length) 0 ++ data ++
    content.drop (pos + data.length)

/-- Where writing starts: at the cursor, or at the end when appending. -/
def writingAt (os : OpenOptions) (f : ByteFile) : Nat :=
  if os.isAppending then f.content.length else f.cursor

section

variable (os : OpenOptions) (most : Option Nat) (f : ByteFile)

/-- Up to `size` bytes, or all that are left if it is negative or not given. -/
def read (size : Option Int) : Except Failure (Answer × ByteFile) :=
  if os.isReadable then
    let n := size.getD (-1)
    let data := if n < 0 then f.rest else f.rest.take (moved most n.toNat)
    .ok (.bytes (.ofList data), f.advance data.length)
  else .error .fileMode

/-- Reads into a destination, which stays as it is behind the bytes that were read. -/
def readInto (buffer : Bytes) : Answer × ByteFile :=
  if os.isReadable then
    let data := f.rest.take (moved most buffer.size)
    (.filled (.ofList (data ++ buffer.toList.drop data.length)) (.ok data.length),
      f.advance data.length)
  else (.filled buffer (.error .fileMode), f)

/-- Writes at the cursor, or at the end when appending, and leaves the cursor behind what was
written. Writing nothing has no effect. -/
def write (data : Option Bytes) : Except Failure (Answer × ByteFile) :=
  match data with
  | none => .error .notBytes
  | some d =>
    if os.isWritable then
      if d.isEmpty then .ok (.count 0, f)
      else
        let data := d.toList.take (moved most d.size)
        .ok (.count data.length,
          ⟨overlay f.content (f.writingAt os) data, f.writingAt os + data.length⟩)
    else .error .fileMode

/-- Cuts the content to a size, or extends it by zeros; the cursor stays. -/
def truncate (size : Option Int) : Except Failure (Answer × ByteFile) :=
  if os.isWritable then
    let n := size.getD f.cursor
    if n < 0 then .error (.system .invalid)
    else .ok (.count n.toNat, { f with
      content := f.content.take n.toNat ++ List.replicate (n.toNat - f.content.length) 0 })
  else .error .fileMode

/-- Where the cursor goes, counted from the start (0), the cursor (1) or the end (2). -/
def seek (offset whence : Int) : Except Failure Nat :=
  if whence = 0 ∨ whence = 1 ∨ whence = 2 then
    let base := if whence = 0 then 0 else if whence = 1 then f.cursor else f.content.length
    let pos := (base : Int) + offset
    if pos < 0 then .error (.system .invalid) else .ok pos.toNat
  else .error (.system .invalid)

/-- What an operation comes to on a file where `most` bytes move at a time, if that is given. -/
def step : Operation → Except Failure (Answer × ByteFile)
  | .read size => f.read os most size
  | .readInto buffer => .ok (f.readInto os most buffer)
  | .write data => f.write os most data
  | .truncate size => f.truncate os size
  | .seek offset whence =>
    (f.seek offset whence).map fun (k : Nat) => (.count k, { f with cursor := k })
  | .setPosition p => (f.seek p 0).map fun k => (.none, { f with cursor := k })
  | .position | .tell => .ok (.count f.cursor, f)
  | .size => .ok (.count f.content.length, f)
  | .readable => .ok (.flag os.isReadable, f)
  | .writable => .ok (.flag os.isWritable, f)
  | _ => .error .noOperation

/-- An operation that fails leaves the file as it was. -/
def turn : Reference ByteFile := fun op f =>
  match f.step os most op with
  | .ok (a, f) => (.ok a, f)
  | .error e => (.error e, f)

end

/-- The file without limits. -/
def ideal (os : OpenOptions) : Reference ByteFile := turn os none

theorem moved_of_le {most : Option Nat} {n : Nat} (h : ∀ m ∈ most, n ≤ m) : moved most n = n := by
  cases most with
  | none => rfl
  | some m => exact Nat.min_eq_left (h m rfl)

/-- A bound that is not met makes no difference. -/
theorem turn_of_amount_le {os : OpenOptions} {most : Option Nat} {op : Operation}
    (h : ∀ m ∈ most, op.amount ≤ m) (f : ByteFile) : turn os most op f = ideal os op f := by
  have hmoved : moved most op.amount = moved none op.amount := moved_of_le h
  unfold ideal turn
  cases op with
  | read size =>
    cases size with
    | none => rfl
    | some n =>
      have hmoved : moved most n.toNat = moved none n.toNat := hmoved
      simp only [step, read, Option.getD_some, hmoved]
  | readInto buffer =>
    have hmoved : moved most buffer.size = moved none buffer.size := hmoved
    simp only [step, readInto, hmoved]
  | write data =>
    cases data with
    | none => rfl
    | some d =>
      have hmoved : moved most d.size = moved none d.size := hmoved
      simp only [step, write, hmoved]
  | _ => rfl

end ByteFile

/-! ## What a platform makes of an operation -/

/-- What becomes of an operation on a platform. -/
inductive Verdict where
  /-- It is refused. -/
  | refused (e : Failure)
  /-- It is carried out, and moves at most so many bytes, if a number is given. -/
  | served (most : Option Nat)
  /-- The file system itself puts the cursor somewhere. -/
  | placed (cursor : Nat)

namespace Platform

open Capacity (fitsWord)
open LocalFile (fitsHalfWord)

variable (p : Platform) (os : OpenOptions) (f : ByteFile)

/-- How large a destination is needed for what is left: a byte more than that, or a block of the usual
size where the file is empty or the cursor is past its end. -/
def roomForRest : Nat :=
  if f.content.length = 0 ∨ f.content.length < f.cursor then 8192
  else f.content.length - f.cursor + 1

/-- A read into a new byte string has to find room for all that it asks for. -/
def verdictOnRead (size : Option Int) : Verdict :=
  let n := size.getD (-1)
  if !fitsWord n then .refused .outOfRange
  else if !os.isReadable then .served none
  else if n < 0 then
    if p.room < roomForRest f then .refused .noMemory else .served none
  else
    match p.capacity Capacity.maxFresh n with
    | .error e => .refused e
    | .ok _ => .served (some p.transferMax)

/-- Nothing is written behind the largest size of a file. -/
def verdictOnWrite (data : Option Bytes) : Verdict :=
  if os.isWritable = true ∧ data.any (!·.isEmpty) = true then
    if p.fileMax ≤ f.writingAt os then .refused (.system .tooLarge)
    else .served (some (min p.transferMax (p.fileMax - f.writingAt os)))
  else .served none

def verdictOnTruncate (size : Option Int) : Verdict :=
  let n := size.getD f.cursor
  if !os.isWritable then .served none
  else if !fitsWord n then .refused .outOfRange
  else if p.fileMax < n then .refused (.system .tooLarge)
  else .served none

/-- The cursor goes no further than the largest file reaches. Data (3) and gaps (4) are the file
system's business. -/
def verdictOnSeek (offset whence : Int) : Verdict :=
  if !fitsHalfWord whence || !fitsWord offset then .refused .outOfRange
  else if whence = 3 ∨ whence = 4 then
    match p.locate whence (.ofList f.content) offset with
    | .error e => .refused (.system e)
    | .ok k => if p.fileMax < k then .refused (.system .invalid) else .placed k
  else
    match f.seek offset whence with
    | .error _ => .served none
    | .ok k => if p.fileMax < k then .refused (.system .invalid) else .served none

/-- What becomes of an operation on a file of bytes. -/
def verdict : Operation → Verdict
  | .read size => p.verdictOnRead os f size
  | .readInto _ => .served (some p.transferMax)
  | .write data => p.verdictOnWrite os f data
  | .truncate size => p.verdictOnTruncate os f size
  | .seek offset whence => p.verdictOnSeek f offset whence
  | .setPosition pos => p.verdictOnSeek f pos 0
  | _ => .served none

end Platform

namespace ByteFile

variable {p : Platform} {os : OpenOptions} {f : ByteFile} {op : Operation} {ops : List Operation}

/-- The file on a platform. An operation that is refused leaves it as it was. -/
def perform (p : Platform) (os : OpenOptions) : Reference ByteFile := fun op f =>
  match p.verdict os f op with
  | .refused e => (.error e, f)
  | .served most => turn os most op f
  | .placed k => (.ok (.count k), { f with cursor := k })

/-- The platform carries an operation out as it is. -/
def InFull (p : Platform) (os : OpenOptions) (f : ByteFile) (op : Operation) : Prop :=
  ∃ most, p.verdict os f op = .served most ∧ ∀ m ∈ most, op.amount ≤ m

theorem InFull.perform_eq (h : InFull p os f op) : perform p os op f = ideal os op f := by
  obtain ⟨most, hverdict, hmost⟩ := h
  simp only [perform, hverdict]
  exact turn_of_amount_le hmost f

/-- The platform carries all operations of a run out as they are. -/
def RunsInFull (p : Platform) (os : OpenOptions) : List Operation → ByteFile → Prop :=
  (ideal os).Along fun op f => InFull p os f op

/-- As long as the platform's limits are not met, they make no difference. -/
theorem RunsInFull.eq_ideal (h : RunsInFull p os ops f) :
    (perform p os).outcomes ops f = (ideal os).outcomes ops f ∧
      (perform p os).final ops f = (ideal os).final ops f :=
  Reference.Along.run_eq (fun _ _ hop => hop.perform_eq) h

end ByteFile

/-! ## A mirror file is such a file -/

/-- The mirror file as a file of bytes. -/
def LocalFile.bytes (l : LocalFile) : ByteFile := ⟨l.content.toList, l.cursor⟩

namespace LocalFile

/-- The mirror file is open for what the options say. -/
structure IsFor (os : OpenOptions) (l : LocalFile) : Prop where
  readable : l.isReadable = os.isReadable
  writable : l.isWritable = os.isWritable
  appending : l.appending = os.isAppending

theorem opened_isFor (os : OpenOptions) (content : Bytes) : (opened os content).IsFor os := by
  have hread : os.isWritable = false → os.isReadable = true := by
    intro h
    simp [OpenOptions.isReadable, h]
  constructor
  · show (os.access != .writeOnly) = os.isReadable
    unfold OpenOptions.access
    cases hr : os.isReadable <;> cases hw : os.isWritable <;> simp_all
  · show (os.access != .readOnly) = os.isWritable
    unfold OpenOptions.access
    cases hr : os.isReadable <;> cases hw : os.isWritable <;> simp_all
  · rfl

/-- Where there is nothing that opening could take away, the content stays. -/
theorem opened_content {os : OpenOptions} {content : Bytes}
    (h : os.truncates = true → content = .empty) : (opened os content).content = content := by
  show (if os.truncates then .empty else content) = content
  split
  · next ht => exact (h ht).symm
  · rfl

theorem opened_bytes {os : OpenOptions} {content : Bytes}
    (h : os.truncates = true → content = .empty) :
    (opened os content).bytes = .opened os content.toList := by
  have hc : (if os.truncates then .empty else content) = content := opened_content h
  simp only [opened, bytes, ByteFile.opened, hc, Bytes.length_toList]

variable {p : Platform} {os : OpenOptions} {l : LocalFile} {α : Type}

/-- What came of an operation on a mirror file is what came of it on a file of bytes, with the
answer that `answer` makes of it. -/
def Agrees (os : OpenOptions) (answer : α → Answer) (l : LocalFile) :
    Except Failure (α × LocalFile) → Except Failure Answer × ByteFile → Prop
  | .ok (a, l'), y => l'.IsFor os ∧ y = (.ok (answer a), l'.bytes)
  | .error e, y => y = (.error e, l.bytes)

theorem length_bytes (l : LocalFile) : l.bytes.content.length = l.content.size :=
  Bytes.length_toList _

/-- The next bytes are the same on both, and the cursor moves on by as many. -/
theorem take_agrees (hl : l.IsFor os) (n : Nat) :
    (l.take n).1.toList = l.bytes.rest.take n ∧ (l.take n).2.IsFor os ∧
      (l.take n).2.bytes = l.bytes.advance (l.bytes.rest.take n).length := by
  have hdata : (l.take n).1.toList = l.bytes.rest.take n := by
    simp only [take, bytes, ByteFile.rest, Bytes.toList_slice, List.drop_take,
      Nat.add_sub_cancel_left]
  refine ⟨hdata, ⟨hl.readable, hl.writable, hl.appending⟩, ?_⟩
  rw [← hdata, Bytes.length_toList]
  rfl

/-- Taking bytes is reading them. -/
theorem take_agrees_read (hl : l.IsFor os) {n : Nat} {most : Option Nat} {size : Option Int}
    (hreadable : os.isReadable = true)
    (hn : (if size.getD (-1) < 0 then l.bytes.rest
      else l.bytes.rest.take (ByteFile.moved most (size.getD (-1)).toNat)) = l.bytes.rest.take n) :
    Agrees os Answer.bytes l (.ok (l.take n)) (ByteFile.turn os most (.read size) l.bytes) := by
  obtain ⟨hdata, hfor, hbytes⟩ := take_agrees hl n
  refine ⟨hfor, ?_⟩
  have htaken : Bytes.ofList (l.bytes.rest.take n) = (l.take n).1 :=
    Bytes.ext_toList ((Bytes.toList_ofList _).trans hdata.symm)
  simp only [ByteFile.turn, ByteFile.step, ByteFile.read, hreadable, ite_true, hn, htaken]
  rw [← hbytes]
  rfl

theorem read_agrees (hl : l.IsFor os) (size : Option Int) :
    Agrees os Answer.bytes l (l.read p size) (ByteFile.perform p os (.read size) l.bytes) := by
  have hroom : Platform.roomForRest l.bytes = l.restRoom := by
    simp only [Platform.roomForRest, restRoom, rest, bytes, Bytes.length_toList]
  simp only [LocalFile.read, ByteFile.perform, Platform.verdict, Platform.verdictOnRead, hl.readable, hroom]
  by_cases hword : Capacity.fitsWord (size.getD (-1)) = true
  · by_cases hreadable : os.isReadable = true
    · by_cases hn : size.getD (-1) < 0
      · -- everything that is left
        simp only [hword, hreadable, hn, Bool.not_true, Bool.false_eq_true, ite_false, ite_true]
        split
        · rfl
        · refine take_agrees_read hl hreadable ?_
          rw [if_pos hn, rest, ← length_bytes]
          exact (List.take_of_length_le (by simp [ByteFile.rest, bytes])).symm
      · -- a number of bytes
        simp only [hword, hreadable, hn, Bool.not_true, Bool.false_eq_true, ite_false]
        cases hcapacity : p.capacity Capacity.maxFresh (size.getD (-1)) with
        | error e => rfl
        | ok k =>
          obtain ⟨-, rfl⟩ := Platform.of_capacity_ok hcapacity
          refine take_agrees_read hl hreadable ?_
          rw [if_neg hn]
          rfl
    · simp only [hword, hreadable, Bool.not_true, Bool.false_eq_true, ite_false, ite_true,
        Bool.not_false, ByteFile.turn, ByteFile.step, ByteFile.read]
      rfl
  · simp only [hword, Bool.not_false, ite_true]
    rfl

/-- A read into a destination fills it from the start, or leaves it as it is. -/
theorem readInto_agrees (hl : l.IsFor os) (buffer : Bytes) :
    match l.readInto p buffer.size with
    | .ok (data, l') =>
      ByteFile.perform p os (.readInto buffer) l.bytes =
          (.ok (.filled (buffer.overwrite 0 data) (.ok data.size)), l'.bytes) ∧ l'.IsFor os
    | .error e =>
      ByteFile.perform p os (.readInto buffer) l.bytes = (.ok (.filled buffer (.error e)), l.bytes) := by
  simp only [LocalFile.readInto, ByteFile.perform, Platform.verdict, ByteFile.turn, ByteFile.step,
    ByteFile.readInto, hl.readable]
  cases os.isReadable with
  | false => rfl
  | true =>
    obtain ⟨hdata, hfor, hbytes⟩ := take_agrees hl (p.moved buffer.size)
    have hmoved : ByteFile.moved (some p.transferMax) buffer.size = p.moved buffer.size := rfl
    have hfilled : Bytes.ofList (l.bytes.rest.take (p.moved buffer.size) ++
        buffer.toList.drop (l.bytes.rest.take (p.moved buffer.size)).length) =
          buffer.overwrite 0 (l.take (p.moved buffer.size)).1 := by
      apply Bytes.ext_toList
      rw [Bytes.toList_overwrite, ← hdata]
      simp
    have hsize : (l.bytes.rest.take (p.moved buffer.size)).length =
        (l.take (p.moved buffer.size)).1.size := by
      rw [← hdata, Bytes.length_toList]
    simp only [ite_true, hmoved, hfilled]
    rw [hbytes, hsize]
    exact ⟨rfl, hfor⟩

theorem write_agrees (hl : l.IsFor os) (data : Option Bytes) :
    Agrees os (fun (n : Nat) => .count n) l (l.write p data)
      (ByteFile.perform p os (.write data) l.bytes) := by
  cases data with
  | none =>
    have hverdict : p.verdict os l.bytes (.write none) = .served none := by
      simp [Platform.verdict, Platform.verdictOnWrite]
    simp only [ByteFile.perform, hverdict]
    rfl
  | some d =>
    have hplace : l.bytes.writingAt os = if l.appending then l.content.size else l.cursor := by
      rw [ByteFile.writingAt, length_bytes, hl.appending]
      rfl
    simp only [LocalFile.write, ByteFile.perform, Platform.verdict, Platform.verdictOnWrite, hplace,
      hl.writable, Option.any_some]
    generalize (if l.appending then l.content.size else l.cursor) = pos at hplace
    cases hw : os.isWritable with
    | false =>
      simp only [Bool.false_eq_true, false_and, ite_false, Bool.not_false, ite_true, ByteFile.turn,
        ByteFile.step, ByteFile.write, hw]
      rfl
    | true =>
      cases hd : d.isEmpty with
      | true =>
        simp only [Bool.not_true, Bool.false_eq_true, and_false, ite_false, ite_true, ByteFile.turn,
          ByteFile.step, ByteFile.write, hw, hd]
        exact ⟨hl, rfl⟩
      | false =>
        simp only [Bool.not_true, Bool.not_false, Bool.false_eq_true, and_self, ite_false, ite_true]
        split
        · rfl
        · have hmoved : ByteFile.moved (some (min p.transferMax (p.fileMax - pos))) d.size =
              min (p.moved d.size) (p.fileMax - pos) := (Nat.min_assoc ..).symm
          have htaken : d.toList.take (min (p.moved d.size) (p.fileMax - pos)) =
              (d.take (min (p.moved d.size) (p.fileMax - pos))).toList := (Bytes.toList_take ..).symm
          refine ⟨⟨hl.readable, hl.writable, hl.appending⟩, ?_⟩
          simp only [ByteFile.turn, ByteFile.step, ByteFile.write, hw, hd, Bool.false_eq_true, ite_false,
            ite_true, hplace, hmoved, htaken, Bytes.length_toList, ByteFile.overlay, length_bytes]
          simp only [bytes, Bytes.toList_overwrite]

theorem truncate_agrees (hl : l.IsFor os) (size : Option Int) :
    Agrees os (fun (n : Nat) => .count n) l (l.truncate p size)
      (ByteFile.perform p os (.truncate size) l.bytes) := by
  have hcursor : l.bytes.cursor = l.cursor := rfl
  simp only [LocalFile.truncate, ByteFile.perform, Platform.verdict, Platform.verdictOnTruncate,
    hl.writable, hcursor]
  cases hw : os.isWritable with
  | false =>
    simp only [Bool.not_false, ite_true, ByteFile.turn, ByteFile.step, ByteFile.truncate, hw,
      Bool.false_eq_true, ite_false]
    rfl
  | true =>
    simp only [Bool.not_true, Bool.false_eq_true, ite_false]
    by_cases hword : Capacity.fitsWord (size.getD l.cursor) = true
    · simp only [hword, Bool.not_true, Bool.false_eq_true, ite_false]
      by_cases hn : size.getD l.cursor < 0
      · have hmax : ¬(p.fileMax : Int) < size.getD l.cursor := by omega
        simp only [hn, hmax, ite_true, ite_false, ByteFile.turn, ByteFile.step, ByteFile.truncate, hw,
          hcursor]
        rfl
      · have hmax : p.fileMax < (size.getD l.cursor).toNat ↔ (p.fileMax : Int) < size.getD l.cursor := by
          omega
        simp only [hn, hmax, ite_false]
        split
        · rfl
        · refine ⟨⟨hl.readable, hl.writable, hl.appending⟩, ?_⟩
          simp only [ByteFile.turn, ByteFile.step, ByteFile.truncate, hw, hcursor, hn, ite_true,
            ite_false, length_bytes]
          simp only [bytes, Bytes.toList_resize]
    · simp only [hword, Bool.not_false, ite_true]
      rfl

/-- Where the start, the cursor and the end are counted from, a place is one of the file of bytes. -/
theorem seek_bytes (l : LocalFile) (p : Platform) (offset : Int) {whence : Int}
    (h : ¬(whence = 3 ∨ whence = 4)) :
    l.bytes.seek offset whence =
      match l.place p offset whence with
      | .error e => .error (.system e)
      | .ok pos => if pos < 0 then .error (.system .invalid) else .ok pos.toNat := by
  have hcursor : l.bytes.cursor = l.cursor := rfl
  unfold ByteFile.seek place
  by_cases h₀ : whence = 0
  · simp [h₀]
  by_cases h₁ : whence = 1
  · simp [h₁, hcursor]
  by_cases h₂ : whence = 2
  · simp [h₂, length_bytes]
  simp [h₀, h₁, h₂, h]

/-- Seeking on the mirror file is seeking on the file of bytes, and the file system puts the cursor of
both at the same place. `answer` tells the place where the start, the cursor or the end is counted
from. -/
theorem seek_agrees (hl : l.IsFor os) {answer : Nat → Answer} {op : Operation} {offset whence : Int}
    (hanswer : whence = 3 ∨ whence = 4 → answer = fun k => .count k)
    (hverdict : p.verdict os l.bytes op = p.verdictOnSeek l.bytes offset whence)
    (hstep : l.bytes.step os none op =
      (l.bytes.seek offset whence).map fun k => (answer k, { l.bytes with cursor := k })) :
    Agrees os answer l (l.seek p offset whence) (ByteFile.perform p os op l.bytes) := by
  have hmoved (k : Nat) : LocalFile.IsFor os { l with cursor := k } :=
    ⟨hl.readable, hl.writable, hl.appending⟩
  simp only [LocalFile.seek, ByteFile.perform, hverdict, Platform.verdictOnSeek]
  by_cases hword : (!fitsHalfWord whence || !Capacity.fitsWord offset) = true
  · simp only [hword, ite_true]
    rfl
  by_cases hfound : whence = 3 ∨ whence = 4
  · -- the file system tells
    have hcontent : Bytes.ofList l.bytes.content = l.content :=
      Bytes.ext_toList (Bytes.toList_ofList _)
    have hplace : l.place p offset whence =
        (p.locate whence l.content offset).map fun (k : Nat) => (k : Int) := by
      unfold place
      rcases hfound with rfl | rfl <;> simp
    simp only [hword, hfound, hplace, hcontent, Bool.false_eq_true, ite_false, ite_true]
    cases p.locate whence l.content offset with
    | error e => rfl
    | ok k =>
      have hneg : ¬(k : Int) < 0 := by omega
      by_cases hmax : p.fileMax < k
      · simp [Except.map, hmax, Agrees]
      · simp only [Except.map, hneg, hmax, Int.ofNat_lt, decide_false, Bool.or_self, Bool.false_eq_true,
          ite_false]
        exact ⟨hmoved k, by rw [hanswer hfound]; rfl⟩
  · simp only [hword, hfound, Bool.false_eq_true, ite_false]
    have hseek := seek_bytes l p offset hfound
    cases hplace : l.place p offset whence with
    | error e =>
      simp only [hplace] at hseek
      simp only [hseek, ByteFile.turn, hstep]
      rfl
    | ok pos =>
      simp only [hplace] at hseek
      by_cases hneg : pos < 0
      · simp only [hneg, ite_true] at hseek
        simp [hseek, hneg, ByteFile.turn, hstep, Agrees, Except.map]
      · simp only [hneg, ite_false] at hseek
        have hmax : p.fileMax < pos.toNat ↔ (p.fileMax : Int) < pos := by omega
        by_cases hlarge : (p.fileMax : Int) < pos
        · simp [hseek, hneg, hmax, hlarge, Agrees]
        · simp only [hneg, hmax, hlarge, hseek, hstep, ByteFile.turn, decide_false, Bool.or_self,
            Bool.false_eq_true, ite_false]
          exact ⟨hmoved _, rfl⟩

end LocalFile

end ObjectChannel
