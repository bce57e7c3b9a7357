/-
Numbers as callers hand them over: as numbers, as texts that denote one, or as something else, which
denotes none.
-/
import ObjectChannel.Failure
import ObjectChannel.Text.Integer

namespace ObjectChannel

inductive Numeral where
  | int (n : Int)
  | text (s : String)
  | other (v : Value)
  deriving Inhabited

namespace Numeral

/-- The numeral that a value is. A truth value counts as one or zero. -/
def ofValue : Value → Numeral
  | .int n => .int n
  | .bool b => .int (if b then 1 else 0)
  | .text s => .text s
  | v => .other v

/-- What is said of a text that denotes no number. A long text is shown in part. -/
def complaint (s : String) : String :=
  match Text.excessDigits? s with
  | some n =>
    s!"Exceeds the limit ({Text.maxDigits} digits) for integer string conversion: value has {n} " ++
      "digits; use sys.set_int_max_str_digits() to increase the limit"
  | none =>
    "invalid literal for int() with base 10: " ++ .ofList ((Text.quoted s).toList.take 200)

/-- The kind of a value, as the complaint about it says it. -/
def kindName : Value → String
  | .null => "NoneType"
  | .bool _ => "bool"
  | .int _ => "int"
  | .measured _ => "float"
  | .text _ => "str"
  | .list _ => "list"
  | .object _ => "dict"

/-- What is said of something that is of no kind that becomes a number. -/
def kindComplaint (v : Value) : String :=
  "int() argument must be a string, a bytes-like object or a real number, not '" ++ kindName v ++ "'"

/-- The number that is given or denoted. A measured one is cut off at the point. -/
def value : Numeral → Except Failure Int
  | .int n => .ok n
  | .other (.measured m) =>
    match m.truncate? with
    | some n => .ok n
    | none => .error .outOfRange
  | .other v => .error (.notNumeric (kindComplaint v))
  | .text s =>
    match Text.integer? s with
    | some n => .ok n
    | none => .error (.notANumber (complaint s))

/-- The numeral as the value that it was handed over as. -/
def given : Numeral → Value
  | .int n => .int n
  | .text s => .text s
  | .other v => v

/-- Whether two numerals are in order; numbers go by value and texts as texts, and there is no
other order. -/
def le? : Numeral → Numeral → Option Bool
  | .int a, .int b => some (a ≤ b)
  | .text a, .text b => some (a ≤ b)
  | _, _ => none

end Numeral
end ObjectChannel
