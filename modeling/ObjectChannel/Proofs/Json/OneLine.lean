/-
Values as JSON text: what stands in it lies on one line, whatever the texts of the value hold.
-/
import Mathlib
import ObjectChannel.Json.Reader
import ObjectChannel.Json.Writer
import ObjectChannel.Proofs.Text.Integer

namespace ObjectChannel

/-- Texts, whole numbers, truth values and null, in lists, and in objects whose names are distinct. -/
inductive Value.IsData : Value → Prop
  | null : IsData .null
  | bool (b : Bool) : IsData (.bool b)
  | int (n : Int) : IsData (.int n)
  | text (s : String) : IsData (.text s)
  | list {items : List Value} (hitems : ∀ v ∈ items, IsData v) : IsData (.list items)
  | object {fields : List (String × Value)} (hnames : (fields.map Prod.fst).Nodup)
      (hfields : ∀ f ∈ fields, IsData f.2) : IsData (.object fields)

namespace Text

theorem isVisible_digitChar {d : Nat} (h : d < 16) : 32 ≤ (Nat.digitChar d).toNat := by
  revert d
  decide

theorem le_of_mem_hexDigits {w n : Nat} {c : Char} (h : c ∈ hexDigits w n) : 32 ≤ c.toNat := by
  induction w generalizing n with
  | zero => exact nomatch h
  | succ w ih =>
    rcases List.mem_append.mp h with h | h
    · exact ih h
    · obtain rfl := List.mem_singleton.mp h
      exact isVisible_digitChar (Nat.mod_lt n (by decide))

end Text

namespace Json

/-- No character lies below the blank. -/
def OnOneLine (s : List Char) : Prop := ∀ c ∈ s, 32 ≤ c.toNat

theorem OnOneLine.append {s t : List Char} (hs : OnOneLine s) (ht : OnOneLine t) : OnOneLine (s ++ t) :=
  fun c hc => (List.mem_append.mp hc).elim (hs c) (ht c)

theorem OnOneLine.cons {c : Char} {s : List Char} (hc : 32 ≤ c.toNat) (hs : OnOneLine s) :
    OnOneLine (c :: s) :=
  fun d hd => (List.mem_cons.mp hd).elim (fun h => h ▸ hc) (hs d)

-- Not the instance for all characters, which would run through each of them.
instance (s : List Char) : Decidable (OnOneLine s) := List.decidableBAll (fun c : Char => 32 ≤ c.toNat) s

/-- The letters behind a backslash that stand for one character each. -/
def letters : List Char := ['"', '\\', 'n', 'r', 't', 'b', 'f']

/-- A character is written as a backslash and a letter, as its number, or as it is. -/
theorem escaped_cases (c : Char) :
    (∃ d ∈ letters, escaped c = ['\\', d] ∧ unescaped? d = some c) ∨
      (c.toNat < 32 ∧ escaped c = '\\' :: 'u' :: Text.hexDigits 4 c.toNat) ∨
      (32 ≤ c.toNat ∧ c ≠ '"' ∧ c ≠ '\\' ∧ escaped c = [c]) := by
  unfold escaped
  split
  next h => subst h; exact .inl ⟨'"', by decide, rfl, rfl⟩
  split
  next h => subst h; exact .inl ⟨'\\', by decide, rfl, rfl⟩
  split
  next h => subst h; exact .inl ⟨'n', by decide, rfl, rfl⟩
  split
  next h => subst h; exact .inl ⟨'r', by decide, rfl, rfl⟩
  split
  next h => subst h; exact .inl ⟨'t', by decide, rfl, rfl⟩
  split
  next h => subst h; exact .inl ⟨'b', by decide, rfl, rfl⟩
  split
  next h => subst h; exact .inl ⟨'f', by decide, rfl, rfl⟩
  split
  next h => exact .inr (.inl ⟨h, rfl⟩)
  next hquote hslash _ _ _ _ _ hlow =>
    exact .inr (.inr ⟨Nat.le_of_not_lt hlow, hquote, hslash, rfl⟩)

theorem onOneLine_escaped (c : Char) : OnOneLine (escaped c) := by
  have hletters : OnOneLine letters := by decide
  rcases escaped_cases c with ⟨d, hd, h, -⟩ | ⟨-, h⟩ | ⟨hlow, -, -, h⟩
  · rw [h]
    exact .cons (by decide) (.cons (hletters d hd) (by decide))
  · rw [h]
    exact .cons (by decide) (.cons (by decide) fun _ => Text.le_of_mem_hexDigits)
  · rw [h]
    exact .cons hlow (by decide)

theorem onOneLine_writeString (s : String) : OnOneLine (writeString s) := by
  refine .append (.cons (by decide) fun c hc => ?_) (by decide)
  obtain ⟨d, -, hd⟩ := List.mem_flatMap.mp hc
  exact onOneLine_escaped d c hd

theorem onOneLine_toString (n : Int) : OnOneLine (toString n).toList := by
  have hdigits : OnOneLine (Nat.toDigits 10 n.natAbs) := by
    intro c hc
    have hdigit := Text.isDigit_of_mem_toDigits hc
    simp only [Char.isDigit, Bool.and_eq_true, decide_eq_true_eq] at hdigit
    have hlow : 48 ≤ c.toNat := hdigit.1
    omega
  rw [Text.toList_toString]
  split
  · exact .cons (by decide) hdigits
  · exact hdigits

theorem onOneLine_writeItems {vs : List Value} (h : ∀ v ∈ vs, OnOneLine (writeValue v)) :
    OnOneLine (writeItems vs) := by
  induction vs with
  | nil => decide
  | cons v vs ih =>
    have hrest := ih fun w hw => h w (.tail _ hw)
    exact .append (.cons (by decide) (.cons (by decide) (h v (.head _)))) hrest

theorem onOneLine_field (k : String) {v : Value} (h : OnOneLine (writeValue v)) :
    OnOneLine (writeString k ++ ':' :: ' ' :: writeValue v) :=
  (onOneLine_writeString k).append (.cons (by decide) (.cons (by decide) h))

theorem onOneLine_writeFields {fs : List (String × Value)}
    (h : ∀ f ∈ fs, OnOneLine (writeValue f.2)) : OnOneLine (writeFields fs) := by
  induction fs with
  | nil => decide
  | cons f fs ih =>
    have hrest := ih fun g hg => h g (.tail _ hg)
    have hfield := onOneLine_field f.1 (h f (.head _))
    exact .cons (by decide) (.cons (by decide) (hfield.append hrest))

theorem onOneLine_writeValue {v : Value} (h : v.IsData) : OnOneLine (writeValue v) := by
  induction h with
  | null => decide
  | bool b => cases b <;> decide
  | int n => exact onOneLine_toString n
  | text s => exact onOneLine_writeString s
  | @list items _ ih =>
    cases items with
    | nil => decide
    | cons v vs =>
      have hrest := onOneLine_writeItems fun w hw => ih w (.tail _ hw)
      exact .append (.cons (by decide) (ih v (.head _))) hrest
  | @object fields _ _ ih =>
    cases fields with
    | nil => decide
    | cons f fs =>
      have hrest := onOneLine_writeFields fun g hg => ih g (.tail _ hg)
      have hfield := onOneLine_field f.1 (ih f (.head _))
      exact .cons (by decide) (hfield.append hrest)

end Json
end ObjectChannel
