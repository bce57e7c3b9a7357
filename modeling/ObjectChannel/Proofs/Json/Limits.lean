/-
Which values are written as JSON text: those whose numbers are not too long, and in which lists and
objects do not stand too deep in one another. What keeps a value from being written is told.
-/
import ObjectChannel.Proofs.Json.OneLine

namespace ObjectChannel

namespace Value

mutual
/-- How many lists and objects stand within one another. -/
def depth : Value → Nat
  | .list items => depthOfItems items + 1
  | .object fields => depthOfFields fields + 1
  | _ => 0

def depthOfItems : List Value → Nat
  | [] => 0
  | v :: vs => max (depth v) (depthOfItems vs)

def depthOfFields : List (String × Value) → Nat
  | [] => 0
  | (_, v) :: fs => max (depth v) (depthOfFields fs)
end

mutual
/-- The whole numbers in a value. -/
def numbers : Value → List Int
  | .int n => [n]
  | .list items => numbersOfItems items
  | .object fields => numbersOfFields fields
  | _ => []

def numbersOfItems : List Value → List Int
  | [] => []
  | v :: vs => numbers v ++ numbersOfItems vs

def numbersOfFields : List (String × Value) → List Int
  | [] => []
  | (_, v) :: fs => numbers v ++ numbersOfFields fs
end

/-- The value is nested no deeper than this, and its numbers are not too long. -/
structure Fits (nesting : Nat) (v : Value) : Prop where
  depth : v.depth ≤ nesting
  numbers : ∀ n ∈ v.numbers, n.natAbs < Nat.pow 10 Text.maxDigits

/-- This is true of the value, and keeps it from being written. -/
def Hinders (nesting : Nat) (v : Value) : Unwritable → Prop
  | .tooDeep => nesting < v.depth
  | .tooManyDigits => ∃ n ∈ v.numbers, Nat.pow 10 Text.maxDigits ≤ n.natAbs

end Value

namespace Json

/-- Numbers in a list that are too long. -/
def SomeTooLong (ns : List Int) : Prop := ∃ n ∈ ns, Text.isTooLong n = true

/-- What a check tells of a nesting that it compares with what is allowed, and of some numbers. -/
def Told (nesting depth : Nat) (ns : List Int) : Except Unwritable Unit → Prop
  | .ok _ => depth ≤ nesting ∧ ¬SomeTooLong ns
  | .error .tooDeep => nesting < depth
  | .error .tooManyDigits => SomeTooLong ns

theorem Told.both {nesting d e : Nat} {ns ms : List Int} {x y : Except Unwritable Unit}
    (hx : Told nesting d ns x) (hy : Told nesting e ms y) :
    Told nesting (max d e) (ns ++ ms) (do x; y) := by
  have hboth : SomeTooLong (ns ++ ms) ↔ SomeTooLong ns ∨ SomeTooLong ms := by
    simp only [SomeTooLong, List.mem_append, or_and_right, exists_or]
  cases x with
  | error why =>
    cases why with
    | tooDeep => exact Nat.lt_of_lt_of_le hx (Nat.le_max_left d e)
    | tooManyDigits => exact hboth.mpr (.inl hx)
  | ok _ =>
    cases y with
    | error why =>
      cases why with
      | tooDeep => exact Nat.lt_of_lt_of_le hy (Nat.le_max_right d e)
      | tooManyDigits => exact hboth.mpr (.inr hy)
    | ok _ => exact ⟨Nat.max_le.mpr ⟨hx.1, hy.1⟩, fun h => (hboth.mp h).elim hx.2 hy.2⟩

/-- A list or an object is one level more than what is in it. -/
theorem Told.level {nesting d : Nat} {ns : List Int} {x : Except Unwritable Unit}
    (hx : Told nesting d ns x) : Told (nesting + 1) (d + 1) ns x := by
  cases x with
  | ok _ => exact ⟨Nat.succ_le_succ hx.1, hx.2⟩
  | error why =>
    cases why with
    | tooDeep => exact Nat.succ_lt_succ hx
    | tooManyDigits => exact hx

theorem checkItems_told {nesting : Nat} {vs : List Value}
    (h : ∀ v ∈ vs, Told nesting v.depth v.numbers (check nesting v)) :
    Told nesting (Value.depthOfItems vs) (Value.numbersOfItems vs) (checkItems nesting vs) := by
  induction vs with
  | nil => exact ⟨Nat.zero_le _, nofun⟩
  | cons v vs ih => exact (h v (.head _)).both (ih fun w hw => h w (.tail _ hw))

theorem checkFields_told {nesting : Nat} {fs : List (String × Value)}
    (h : ∀ f ∈ fs, Told nesting f.2.depth f.2.numbers (check nesting f.2)) :
    Told nesting (Value.depthOfFields fs) (Value.numbersOfFields fs) (checkFields nesting fs) := by
  induction fs with
  | nil => exact ⟨Nat.zero_le _, nofun⟩
  | cons f fs ih => exact (h f (.head _)).both (ih fun g hg => h g (.tail _ hg))

theorem check_told {v : Value} (h : v.IsData) (nesting : Nat) :
    Told nesting v.depth v.numbers (check nesting v) := by
  induction h generalizing nesting with
  | null | bool | text =>
    cases nesting <;> exact ⟨Nat.zero_le _, nofun⟩
  | int n =>
    have hone : SomeTooLong [n] ↔ Text.isTooLong n = true := by simp [SomeTooLong]
    rw [check]
    split
    · next hlong => exact hone.mpr hlong
    · next hshort => exact ⟨Nat.zero_le _, fun h => hshort (hone.mp h)⟩
  | list _ ih =>
    cases nesting with
    | zero => exact Nat.succ_pos _
    | succ nesting => exact (checkItems_told fun v hv => ih v hv nesting).level
  | object _ _ ih =>
    cases nesting with
    | zero => exact Nat.succ_pos _
    | succ nesting => exact (checkFields_told fun f hf => ih f hf nesting).level

theorem someTooLong_iff {v : Value} :
    SomeTooLong v.numbers ↔ ∃ n ∈ v.numbers, Nat.pow 10 Text.maxDigits ≤ n.natAbs := by
  simp only [SomeTooLong, Text.isTooLong_eq, decide_eq_true_eq]

/-- A value that fits is written, as its text. -/
theorem write_of_fits {v : Value} (h : v.IsData) {nesting : Nat} (hfits : v.Fits nesting) :
    write nesting v = .ok (.ofList (writeValue v)) := by
  have htold := check_told h nesting
  unfold write
  cases hcheck : check nesting v with
  | ok _ => rfl
  | error why =>
    rw [hcheck] at htold
    cases why with
    | tooDeep => exact absurd hfits.depth (Nat.not_le.mpr htold)
    | tooManyDigits =>
      obtain ⟨n, hn, hlong⟩ := someTooLong_iff.mp htold
      exact absurd (hfits.numbers n hn) (Nat.not_lt.mpr hlong)

/-- Any other value is not, for a reason that is true of it. -/
theorem write_of_not_fits {v : Value} (h : v.IsData) {nesting : Nat} (hfits : ¬v.Fits nesting) :
    ∃ why, write nesting v = .error why ∧ v.Hinders nesting why := by
  have htold := check_told h nesting
  unfold write
  cases hcheck : check nesting v with
  | ok _ =>
    rw [hcheck] at htold
    refine absurd ⟨htold.1, fun n hn => Nat.not_le.mp fun hlong => ?_⟩ hfits
    exact htold.2 (someTooLong_iff.mpr ⟨n, hn, hlong⟩)
  | error why =>
    rw [hcheck] at htold
    refine ⟨why, rfl, ?_⟩
    cases why with
    | tooDeep => exact htold
    | tooManyDigits => exact someTooLong_iff.mp htold

/-- Lists in one another, the innermost of them empty. -/
def nested : Nat → Value
  | 0 => .list []
  | n + 1 => .list [nested n]

/-- Lists that stand too deep in one another are not written. -/
theorem check_nested {nesting n : Nat} (h : nesting ≤ n) :
    check nesting (nested n) = .error .tooDeep := by
  induction nesting generalizing n with
  | zero => cases n <;> rfl
  | succ nesting ih =>
    cases n with
    | zero => exact absurd h (Nat.not_succ_le_zero _)
    | succ n =>
      have hinner := ih (Nat.le_of_succ_le_succ h)
      simp only [nested, check, checkItems, hinner]
      rfl

theorem isData_nested (n : Nat) : (nested n).IsData := by
  induction n with
  | zero => exact .list (List.forall_mem_nil _)
  | succ n ih => exact .list (List.forall_mem_singleton.mpr ih)

end Json
end ObjectChannel
