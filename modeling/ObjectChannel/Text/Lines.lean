/-
The lines of a text file. A carriage return, alone or before a line feed, counts as a line feed;
lines also end at the vertical tabulator, the form feed, three of the information separators, the
next-line control, and the line and paragraph separators.
-/
namespace ObjectChannel.Text

/-- The text with every kind of carriage return written as one line feed. -/
def unifyReturns : List Char → List Char
  | [] => []
  | '\r' :: '\n' :: rest => '\n' :: unifyReturns rest
  | c :: rest => (if c = '\r' then '\n' else c) :: unifyReturns rest

def isLineEnd (c : Char) : Bool :=
  (10 ≤ c.toNat && c.toNat ≤ 12) || (0x1C ≤ c.toNat && c.toNat ≤ 0x1E) ||
    c.toNat = 0x85 || c.toNat = 0x2028 || c.toNat = 0x2029

/-- The lines, without their ends; `line` holds the current one, last character first. What
follows the last end is a line only if it is not empty. -/
def splitLines (line : List Char) : List Char → List (List Char)
  | [] => if line.isEmpty then [] else [line.reverse]
  | c :: rest =>
    if isLineEnd c then line.reverse :: splitLines [] rest else splitLines (c :: line) rest

def lines (s : List Char) : List (List Char) := splitLines [] (unifyReturns s)

end ObjectChannel.Text
