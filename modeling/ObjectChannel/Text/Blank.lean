/-
White space: what is removed around settings, names and numbers. The zero width space and the
byte order mark are not white space.
-/
import ObjectChannel.Text.Span

namespace ObjectChannel.Text

/-- The white space of the Unicode standard, with the four information separators. -/
def blanks : Spans :=
  [(9, 13), (28, 32), (0x85, 0x85), (0xA0, 0xA0), (0x1680, 0x1680), (0x2000, 0x200A),
    (0x2028, 0x2029), (0x202F, 0x202F), (0x205F, 0x205F), (0x3000, 0x3000)]

def isBlank (c : Char) : Bool := blanks.contains c.toNat

/-- The text without the characters at both ends that are in the set `p`. -/
def trimmed (p : Char → Bool) (s : List Char) : List Char :=
  ((s.dropWhile p).reverse.dropWhile p).reverse

/-- The text without the white space around it. -/
def strip (s : List Char) : List Char := trimmed isBlank s

/-- `strip` on a string. -/
def stripped (s : String) : String := .ofList (strip s.toList)

theorem isBlank_of_isWhitespace {c : Char} (h : c.isWhitespace = true) : isBlank c = true := by
  simp only [Char.isWhitespace, Bool.or_eq_true, decide_eq_true_eq] at h
  rcases h with ((rfl | rfl) | rfl) | rfl <;> decide

end ObjectChannel.Text
