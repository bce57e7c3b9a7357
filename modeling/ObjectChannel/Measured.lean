/-
Measured numbers, as callers hand them over beside whole ones. A measured number has a sign of its
own, so that zero has two, and may be too large to be counted.
-/
import ObjectChannel.Text.Scientific

namespace ObjectChannel

inductive Measured where
  /-- A number by its sign and its size, which is not below zero. -/
  | finite (negative : Bool) (size : Double)
  | infinite (negative : Bool)
  deriving DecidableEq, Inhabited

namespace Measured

/-- The nearest number to `n * 10 ^ e`, with a sign. -/
def ofDecimal (negative : Bool) (n : Nat) (e : Int) : Measured :=
  match Double.ofDecimal? n e with
  | some x => .finite negative x
  | none => .infinite negative

/-- The nearest number to a whole one; none if that is too large. -/
def ofInt? (n : Int) : Option Measured :=
  (Double.ofQuotient? n.natAbs 1).map (.finite (n < 0))

def isNegative : Measured → Bool
  | .finite negative _ | .infinite negative => negative

def isZero : Measured → Bool
  | .finite _ x => x.mantissa == 0
  | .infinite _ => false

/-- The number without what stands behind the point, if it can be counted. -/
def truncate? : Measured → Option Int
  | .finite negative x => some (if negative then -x.truncate else x.truncate)
  | .infinite _ => none

/-- The size as a form writes it; without one that can be counted, `endless` stands in its place. -/
def sizeText (endless : String) (form : Double → List Char) : Measured → List Char
  | .finite _ x => form x
  | .infinite _ => endless.toList

/-- The shortest text that is read as the number. -/
def text (endless : String) (m : Measured) : String :=
  .ofList ((if m.isNegative then ['-'] else []) ++ m.sizeText endless Text.Scientific.plain)

end Measured
end ObjectChannel
