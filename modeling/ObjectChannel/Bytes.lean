/-
Byte strings, as object contents, parts, buffers and mirror files hold them.

A byte string is a packed array. Its meaning is its list of bytes
(`Bytes.toList`); every operation below is fixed by what it does to that list.
-/
namespace ObjectChannel

abbrev Bytes := ByteArray

namespace Bytes

/-- The bytes in order. -/
def toList (b : Bytes) : List UInt8 := b.data.toList

/-- A string of `n` zero bytes, built by doubling. -/
def zeros (n : Nat) : Bytes :=
  if n = 0 then .empty
  else
    let half := zeros (n / 2)
    if n % 2 = 0 then half ++ half else (half ++ half).push 0
termination_by n

/-- The bytes from `start` up to, but not including, `stop`; less where the string is shorter. The
positions may be of any size. -/
def slice (b : Bytes) (start stop : Nat) : Bytes := b.extract (min start b.size) (min stop b.size)

/-- The first `n` bytes. -/
def take (b : Bytes) (n : Nat) : Bytes := b.slice 0 n

/-- All but the first `n` bytes. -/
def drop (b : Bytes) (n : Nat) : Bytes := b.slice n b.size

/-- Cut to `n` bytes, or extended to `n` bytes by zeros. -/
def resize (b : Bytes) (n : Nat) : Bytes :=
  if n ≤ b.size then b.take n else b ++ zeros (n - b.size)

/-- `data` laid over `b` from position `at`. A gap before it is filled with zeros, and what lies
behind it stays. -/
def overwrite (b : Bytes) (pos : Nat) (data : Bytes) : Bytes :=
  (b.resize pos ++ data) ++ b.drop (pos + data.size)

/-- Whether `pattern` stands in `b` at position `pos`, in full. -/
def holdsAt (b : Bytes) (pos : Nat) (pattern : Bytes) : Bool :=
  (b.slice pos (pos + pattern.size)).data == pattern.data

/-- The byte strings of a list, one after the other. -/
def concat (parts : List Bytes) : Bytes := parts.foldl (· ++ ·) .empty

/-- Cut into pieces of `n` bytes, the last of which may be shorter; no pieces of no bytes. -/
def pieces (n : Nat) (b : Bytes) : List Bytes :=
  if n = 0 then []
  else (List.range ((b.size + n - 1) / n)).map fun k => b.slice (k * n) ((k + 1) * n)

/-- The bytes with the given numbers. -/
def ofList (l : List UInt8) : Bytes := ⟨l.toArray⟩

@[simp] theorem toList_append (a b : Bytes) : toList (a ++ b) = toList a ++ toList b := by
  simp [toList, ByteArray.data_append]

@[simp] theorem toList_empty : toList ByteArray.empty = [] := rfl

@[simp] theorem toList_ofList (l : List UInt8) : toList (ofList l) = l := by
  simp [toList, ofList]

@[simp] theorem length_toList (b : Bytes) : (toList b).length = b.size :=
  Array.length_toList

theorem toList_slice (b : Bytes) (i j : Nat) :
    toList (b.slice i j) = ((toList b).take j).drop i := by
  have hx : toList (b.slice i j) = ((toList b).take (min j b.size)).drop (min i b.size) := by
    simp only [toList, slice, ByteArray.data_extract, Array.toList_extract, List.extract]
    rw [List.drop_take]
  have hj : (toList b).take (min j b.size) = (toList b).take j := by
    rw [← length_toList b, ← List.take_eq_take_min]
  rw [hx, hj]
  by_cases hi : i ≤ b.size
  · rw [Nat.min_eq_left hi]
  · rw [List.drop_eq_nil_of_le (by simp; omega), List.drop_eq_nil_of_le (by simp; omega)]

@[simp] theorem toList_take (b : Bytes) (n : Nat) : toList (b.take n) = (toList b).take n := by
  simpa [take] using toList_slice b 0 n

@[simp] theorem toList_drop (b : Bytes) (n : Nat) : toList (b.drop n) = (toList b).drop n := by
  have h := toList_slice b n b.size
  rwa [← length_toList b, List.take_length] at h

theorem size_slice (b : Bytes) (i j : Nat) : (b.slice i j).size = min j b.size - i := by
  rw [← length_toList, toList_slice]
  simp

theorem isEmpty_iff {b : Bytes} : b.isEmpty = true ↔ b.size = 0 := by
  simp [ByteArray.isEmpty]

theorem isEmpty_eq_false {b : Bytes} (h : b.size ≠ 0) : b.isEmpty = false :=
  Bool.eq_false_iff.mpr fun hb => h (isEmpty_iff.mp hb)

@[simp] theorem size_empty : ByteArray.empty.size = 0 := rfl

/-- A byte string is its list of bytes. -/
theorem ext_toList {a b : Bytes} (h : toList a = toList b) : a = b := by
  apply ByteArray.ext
  exact Array.toList_inj.mp h

theorem take_append {a b : Bytes} {n : Nat} (h : a.size ≤ n) :
    take (a ++ b) n = a ++ b.take (n - a.size) := by
  apply ext_toList
  rw [toList_take, toList_append, toList_append, toList_take, List.take_append,
    List.take_of_length_le (by simpa using h), length_toList]

theorem take_zero (a : Bytes) : a.take 0 = .empty := ext_toList (by simp)

theorem take_of_size_le {a : Bytes} {n : Nat} (h : a.size ≤ n) : a.take n = a := by
  apply ext_toList
  rw [toList_take, List.take_of_length_le (by simpa using h)]

theorem size_drop (a : Bytes) (n : Nat) : (a.drop n).size = a.size - n := by
  rw [← length_toList, toList_drop, List.length_drop, length_toList]

/-- What lies behind a position is the next bytes and what lies behind those. -/
theorem drop_eq_slice_append (b : Bytes) (i n : Nat) :
    b.drop i = b.slice i (i + n) ++ b.drop (i + (b.slice i (i + n)).size) := by
  apply ext_toList
  rw [toList_append, toList_drop, toList_drop, toList_slice, size_slice, List.drop_take,
    Nat.add_sub_cancel_left]
  conv => lhs; rw [← List.take_append_drop n ((toList b).drop i)]
  congr 1
  rw [List.drop_drop]
  by_cases h : i + n ≤ b.size
  · rw [Nat.min_eq_left h, Nat.add_sub_cancel_left]
  · rw [List.drop_eq_nil_of_le (by simp; omega), List.drop_eq_nil_of_le (by simp; omega)]

/-- Neighbouring parts, one after the other. -/
theorem slice_append_slice (b : Bytes) (i n m : Nat) :
    b.slice i (i + n) ++ b.slice (i + n) (i + n + m) = b.slice i (i + (n + m)) := by
  apply ext_toList
  simp only [toList_append, toList_slice, List.drop_take, Nat.add_sub_cancel_left]
  rw [List.take_add, List.drop_drop]

@[simp] theorem toList_zeros (n : Nat) : toList (zeros n) = List.replicate n 0 := by
  induction n using Nat.strongRecOn with
  | _ n ih =>
    unfold zeros
    split
    · next h => subst h; rfl
    · next h =>
      have hh := ih (n / 2) (by omega)
      have hpush (b : Bytes) : toList (b.push 0) = toList b ++ [0] := by
        show (b.data.push 0).toList = b.data.toList ++ [0]
        simp
      split
      · next he =>
        rw [toList_append, hh, List.replicate_append_replicate]
        congr 1; omega
      · next he =>
        rw [hpush, toList_append, hh, List.replicate_append_replicate]
        have hn : n = n / 2 + n / 2 + 1 := by omega
        conv => rhs; rw [hn, List.replicate_succ']

theorem toList_resize (b : Bytes) (n : Nat) :
    toList (b.resize n) = (toList b).take n ++ List.replicate (n - b.size) 0 := by
  unfold resize
  split
  · next h => simp [Nat.sub_eq_zero_of_le h]
  · next h =>
    have : (toList b).take n = toList b := List.take_of_length_le (by simp; omega)
    simp [this]

theorem toList_overwrite (b : Bytes) (pos : Nat) (data : Bytes) :
    toList (b.overwrite pos data) =
      (toList b).take pos ++ List.replicate (pos - b.size) 0 ++ toList data ++
        (toList b).drop (pos + data.size) := by
  simp [overwrite, toList_resize]

theorem toList_concat (parts : List Bytes) : toList (concat parts) = (parts.map toList).flatten := by
  suffices ∀ acc : Bytes, toList (parts.foldl (· ++ ·) acc) = toList acc ++ (parts.map toList).flatten by
    simpa [concat] using this .empty
  induction parts with
  | nil => simp
  | cons p ps ih => intro acc; simp [ih, List.append_assoc]

theorem concat_cons (part : Bytes) (parts : List Bytes) :
    concat (part :: parts) = part ++ concat parts := by
  apply ext_toList
  simp [toList_concat]

/-- The first `m` pieces are the bytes up to the end of the last of them. -/
theorem flatten_slices (b : Bytes) (n m : Nat) :
    ((List.range m).map fun k => toList (b.slice (k * n) ((k + 1) * n))).flatten =
      (toList b).take (m * n) := by
  induction m with
  | zero => simp
  | succ m ih =>
    rw [List.range_succ, List.map_append, List.flatten_append, ih, Nat.succ_mul, List.take_add]
    simp [toList_slice, List.drop_take, Nat.succ_mul]

/-- Cutting into pieces loses nothing. -/
theorem concat_pieces {n : Nat} (h : 0 < n) (b : Bytes) : concat (pieces n b) = b := by
  apply ext_toList
  have hn : b.size ≤ (b.size + n - 1) / n * n := by
    have h₁ := Nat.div_add_mod (b.size + n - 1) n
    have h₂ := Nat.mod_lt (b.size + n - 1) h
    rw [Nat.mul_comm] at h₁
    omega
  rw [toList_concat, pieces, if_neg (by omega), List.map_map]
  exact (flatten_slices b n _).trans (List.take_of_length_le (by simpa using hn))

end Bytes
end ObjectChannel
