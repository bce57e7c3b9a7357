/-
Measured numbers as decimal text: with places behind a point, with an exponent, or whichever of the
two is shorter. The digits are those of the exact value, rounded to the nearest, and from the middle to
the even one. Signs are written elsewhere; the numbers of this module are not below zero.
-/
import ObjectChannel.Double

namespace ObjectChannel.Text.Scientific

/-- The quotient `n / d / 10 ^ e`. -/
def scaled (n d : Nat) (e : Int) : Nat × Nat :=
  if 0 ≤ e then (n, d * Nat.pow 10 e.toNat) else (n * Nat.pow 10 (-e).toNat, d)

/-- The exponent of the first digit of a quotient that is not zero. -/
def leadingExponent (n d : Nat) : Int :=
  let e : Int := ((Nat.toDigits 10 n).length : Int) - (Nat.toDigits 10 d).length
  let (a, b) := scaled n d e
  if b ≤ a then e else e - 1

/-- The quotient of the number by a power of ten. -/
def quotient (x : Double) (e : Int) : Nat × Nat := scaled x.numerator.natAbs x.denominator e

/-- The exponent of the first digit of a number, that of zero being zero. -/
def firstExponent (x : Double) : Int :=
  if x.mantissa = 0 then 0 else leadingExponent x.numerator.natAbs x.denominator

/-- No number has more digits than this, in front of the point and behind it, but for zeros. -/
def maxDigits : Nat := 1100

/-- So many decimal digits, at least one, and the exponent of the first one. -/
def digits (count : Nat) (x : Double) : List Char × Int :=
  let e := firstExponent x
  let exact := min count maxDigits
  let (a, b) := quotient x (e - (exact - 1 : Nat))
  let ds := Nat.toDigits 10 (Double.nearest a b)
  if exact < ds.length then (ds.take exact ++ List.replicate (count - exact) '0', e + 1)
  else (ds ++ List.replicate (count - ds.length) '0', e)

/-- A fraction behind its point; `always` keeps the point also without a fraction. -/
def pointed (always : Bool) (fraction : List Char) : List Char :=
  if fraction.isEmpty && !always then [] else '.' :: fraction

/-- With so many places behind the point. -/
def fixed (places : Nat) (always : Bool) (x : Double) : List Char :=
  let exact := min places maxDigits
  let (a, b) := quotient x (-(exact : Int))
  let ds := Nat.toDigits 10 (Double.nearest a b)
  let ds := List.replicate (exact + 1 - ds.length) '0' ++ ds
  let fraction := ds.drop (ds.length - exact) ++ List.replicate (places - exact) '0'
  ds.take (ds.length - exact) ++ pointed always fraction

/-- An exponent, with two digits at least. -/
def exponent (e : Int) : List Char :=
  let ds := Nat.toDigits 10 e.natAbs
  'e' :: (if e < 0 then '-' else '+') :: (List.replicate (2 - ds.length) '0' ++ ds)

/-- With one digit in front of the point, so many places behind it, and an exponent. -/
def scientific (places : Nat) (always : Bool) (x : Double) : List Char :=
  let (ds, e) := digits (places + 1) x
  ds.take 1 ++ pointed always (ds.drop 1) ++ exponent e

/-- The digits without the zeros at their end. -/
def withoutZeros (ds : List Char) : List Char := (ds.reverse.dropWhile (· == '0')).reverse

/-- Digits with the point where the exponent of the first one puts it. -/
def placed (always : Bool) (ds : List Char) (e : Int) : List Char :=
  if e < 0 then '0' :: pointed always (List.replicate (-e - 1).toNat '0' ++ ds)
  else ds.take (e.toNat + 1) ++ pointed always (ds.drop (e.toNat + 1))

/-- With so many digits, and an exponent only if the point is too far from them. Zeros at the end of a
fraction are kept only if the point always is. -/
def general (count : Nat) (always : Bool) (x : Double) : List Char :=
  let count := max count 1
  let (ds, e) := digits count x
  let kept (whole : Nat) : List Char :=
    if always then ds else ds.take whole ++ withoutZeros (ds.drop whole)
  if -4 ≤ e ∧ e < count then placed always (kept (e + 1).toNat) e
  else
    let ds := kept 1
    ds.take 1 ++ pointed always (ds.drop 1) ++ exponent e

/-! ## The shortest text -/

/-- Of the two decimal numbers of so many digits beside `x`, the one that is read as `x`; of two, the
nearer, and the even one if they are equally near. -/
def hit? (x : Double) (count : Nat) : Option (Nat × Int) :=
  let k := firstExponent x - (count - 1 : Nat)
  let (a, b) := quotient x k
  let below := a / b
  let isRead (c : Nat) : Bool := (Double.ofDecimal? c k).any (·.same x)
  match isRead below, isRead (below + 1) with
  | true, true => some (Double.nearest a b, k)
  | true, false => some (below, k)
  | false, true => some (below + 1, k)
  | false, false => none

/-- The fewest digits that are read as `x`, and the exponent of the first one. Seventeen are always
enough. -/
def shortest (x : Double) : List Char × Int :=
  match ((List.range 17).map (· + 1)).findSome? (hit? x) with
  | some (c, k) =>
    let ds := Nat.toDigits 10 c
    (ds.take 1 ++ withoutZeros (ds.drop 1), k + (ds.length - 1 : Nat))
  | none => digits 17 x

/-- The shortest text that is read as `x`: with a point and at least one place behind it, or with an
exponent where the point would be far from the digits. -/
def plain (x : Double) : List Char :=
  let (ds, e) := shortest x
  if 0 ≤ e ∧ e < 16 then placed true (ds ++ List.replicate (e.toNat + 2 - ds.length) '0') e
  else if -4 ≤ e ∧ e < 0 then placed true ds e
  else ds.take 1 ++ pointed false (ds.drop 1) ++ exponent e

end ObjectChannel.Text.Scientific
