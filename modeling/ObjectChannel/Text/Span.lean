/-
Sets of code points, written as tables of closed spans. The tables of this folder list a property
of the Unicode standard (version 14) as ascending, disjoint spans.
-/
namespace ObjectChannel.Text

/-- A table of spans: each pair holds its first and its last code point. -/
abbrev Spans := List (Nat × Nat)

/-- Whether a code point lies in one of the spans. -/
def Spans.contains (t : Spans) (n : Nat) : Bool := t.any fun s => s.1 ≤ n && n ≤ s.2

theorem Spans.contains_iff {t : Spans} {n : Nat} :
    t.contains n = true ↔ ∃ s ∈ t, s.1 ≤ n ∧ n ≤ s.2 := by
  simp [Spans.contains]

end ObjectChannel.Text
