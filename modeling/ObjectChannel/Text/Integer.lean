/-
Reading whole numbers as people and settings files write them: white space around, one sign, then
decimal digits of any script, with single underscores between digits.

White space here is the usual kind, except that of the ASCII characters only the space and the
five from the tabulator to the carriage return count.
-/
import ObjectChannel.Text.Blank
import ObjectChannel.Text.Digit

namespace ObjectChannel.Text

/-- The white space that may stand around a number. -/
def isNumberBlank (c : Char) : Bool :=
  if c.toNat < 128 then c = ' ' || (9 ≤ c.toNat && c.toNat ≤ 13) else isBlank c

/-- The most digits that a number may be written with. -/
def maxDigits : Nat := 4300

/-- Whether a number has more digits than are written. -/
def isTooLong (n : Int) : Bool := maxDigits < (Nat.toDigits 10 n.natAbs).length

/-- The digits of a number: at least one, and an underscore only between two of them. -/
def digits? : List Char → Option (List Nat)
  | [] => none
  | [c] => (digitValue? c).map ([·])
  | c :: '_' :: rest => do
    let d ← digitValue? c
    return d :: (← digits? rest)
  | c :: rest => do
    let d ← digitValue? c
    return d :: (← digits? rest)

/-- The number with the given decimal digits, the leading one first. -/
def ofDigits (ds : List Nat) : Nat := ds.foldl (fun n d => 10 * n + d) 0

/-- What is written for a number: whether it is below zero, and what comes after the sign. -/
def signed (s : String) : Bool × List Char :=
  match trimmed isNumberBlank s.toList with
  | '-' :: rest => (true, rest)
  | '+' :: rest => (false, rest)
  | rest => (false, rest)

/-- The number that a text denotes, if it is written as one that is not too long. -/
def integer? (s : String) : Option Int := do
  let (negative, rest) := signed s
  let ds ← digits? rest
  if maxDigits < ds.length then none
  else if negative then some (-(ofDigits ds : Int))
  else some (ofDigits ds : Int)

/-- The number of digits in a text that is written as a number, but as too long a one. -/
def excessDigits? (s : String) : Option Nat := do
  let ds ← digits? (signed s).2
  if maxDigits < ds.length then some ds.length else none

end ObjectChannel.Text
