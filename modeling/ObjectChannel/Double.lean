/-
Numbers of 53 significant binary digits, in exact arithmetic. A quotient that is no such number is
rounded to the nearest one, and from the middle between two to the even one. Times are reckoned with
these numbers, and where a time comes out a little early or late, their rounding is the reason.
-/
namespace ObjectChannel

/-- The number `mantissa * 2 ^ exponent`. -/
structure Double where
  mantissa : Int
  exponent : Int
  deriving DecidableEq, Inhabited

namespace Double

/-- The whole number nearest to `n / d`, the even one of two that are equally near. -/
def nearest (n d : Nat) : Nat :=
  let q := n / d
  let r := n % d
  if 2 * r < d then q else if d < 2 * r then q + 1 else if q % 2 = 0 then q else q + 1

/-- Two to the power of `n`. -/
def powerOfTwo (n : Nat) : Nat := Nat.pow 2 n

/-- `n / d / 2 ^ e` as a quotient of natural numbers. -/
def scaled (n d : Nat) (e : Int) : Nat × Nat :=
  if 0 ≤ e then (n, d * powerOfTwo e.toNat) else (n * powerOfTwo (-e).toNat, d)

/-- The exponent for a quotient: the one that leaves 53 digits before the point. -/
def exponentOf (n d : Nat) : Int :=
  let e : Int := (n.log2 : Int) - d.log2 - 53
  let (a, b) := scaled n d e
  max (if a / b < powerOfTwo 53 then e else e + 1) (-1074)

/-- The nearest number to `n / d`, if it is not beyond the largest one. -/
def ofQuotient? (n : Int) (d : Nat) : Option Double :=
  let e := exponentOf n.natAbs d
  let (a, b) := scaled n.natAbs d e
  let m := nearest a b
  if n = 0 then some ⟨0, 0⟩
  else if 971 < e ∨ (e = 971 ∧ powerOfTwo 53 ≤ m) then none
  else some ⟨n.sign * m, e⟩

/-- The nearest number to `n * 10 ^ e`, if it is not beyond the largest one. What is far out of reach on
either side is told by its length alone. -/
def ofDecimal? (n : Nat) (e : Int) : Option Double :=
  let top := e + (Nat.toDigits 10 n).length
  if n = 0 ∨ top < -400 then some ⟨0, 0⟩
  else if 400 < top then none
  else if 0 ≤ e then ofQuotient? (n * Nat.pow 10 e.toNat) 1
  else ofQuotient? n (Nat.pow 10 (-e).toNat)

/-- The denominator of the number, as a power of two. -/
def denominator (x : Double) : Nat := powerOfTwo (-x.exponent).toNat

/-- The number times its denominator. -/
def numerator (x : Double) : Int := x.mantissa * powerOfTwo x.exponent.toNat

/-- Whether two numbers are the same, however they are written. -/
def same (x y : Double) : Bool := x.numerator * y.denominator == y.numerator * x.denominator

/-- The number without what stands behind the point. -/
def truncate (x : Double) : Int := x.numerator.tdiv x.denominator

/-- The nearest number to `x` times a whole number. -/
def times? (x : Double) (k : Int) : Option Double := ofQuotient? (x.numerator * k) x.denominator

/-- The whole number nearest to the number, the even one of two. -/
def round (x : Double) : Int := x.numerator.sign * nearest x.numerator.natAbs x.denominator

/-- What stands behind the point, with the sign of the number. -/
def fraction (x : Double) : Double := ⟨x.numerator.tmod x.denominator, min x.exponent 0⟩

end Double
end ObjectChannel
