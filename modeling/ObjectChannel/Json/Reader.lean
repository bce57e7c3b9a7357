/-
Reading JSON text. The fields of an object keep their order; of two with one name the later one
counts, in the place of the earlier. A number without point and exponent is a whole one, and every
other number is a measured one.
-/
import ObjectChannel.Table
import ObjectChannel.Value

namespace ObjectChannel.Json

/-- What may stand between the parts of a text. -/
def isBlank (c : Char) : Bool := c = ' ' || c = '\t' || c = '\n' || c = '\r'

def skipBlanks (s : List Char) : List Char := s.dropWhile isBlank

/-! ## Strings -/

/-- The value of a hexadecimal digit. -/
def hexDigit? (c : Char) : Option Nat :=
  if c.isDigit then some (c.toNat - '0'.toNat)
  else if 'a' ≤ c ∧ c ≤ 'f' then some (c.toNat - 'a'.toNat + 10)
  else if 'A' ≤ c ∧ c ≤ 'F' then some (c.toNat - 'A'.toNat + 10)
  else none

def hexNumber? (digits : List Char) : Option Nat :=
  digits.foldlM (fun n c => (hexDigit? c).map (16 * n + ·)) 0

/-- The character that two numbers stand for together, as those do that one of them cannot tell. -/
def paired? (high low : Nat) : Option Char :=
  if 0xD800 ≤ high ∧ high < 0xDC00 ∧ 0xDC00 ≤ low ∧ low < 0xE000 then
    some (Char.ofNat (0x10000 + (high - 0xD800) * 0x400 + (low - 0xDC00)))
  else none

/-- The character that a letter behind a backslash stands for. -/
def unescaped? (c : Char) : Option Char :=
  if c = '"' || c = '\\' || c = '/' then some c
  else if c = 'n' then some '\n'
  else if c = 'r' then some '\r'
  else if c = 't' then some '\t'
  else if c = 'b' then some '\x08'
  else if c = 'f' then some '\x0c'
  else none

/-- The rest of a string, up to its quotation mark, and the text behind it; `done` has been read, the
last character first. -/
def readString (done : List Char) : List Char → Option (String × List Char)
  | [] => none
  | '"' :: rest => some (.ofList done.reverse, rest)
  | '\\' :: 'u' :: a :: b :: c :: d :: rest =>
    match hexNumber? [a, b, c, d] with
    | none => none
    | some n =>
      if n < 0xD800 ∨ 0xE000 ≤ n then readString (Char.ofNat n :: done) rest
      else
        match rest with
        | '\\' :: 'u' :: a :: b :: c :: d :: rest =>
          match (hexNumber? [a, b, c, d]).bind (paired? n) with
          | some c => readString (c :: done) rest
          | none => none
        | _ => none
  | '\\' :: c :: rest =>
    match unescaped? c with
    | some c => readString (c :: done) rest
    | none => none
  | c :: rest => if c.toNat < 32 then none else readString (c :: done) rest

/-! ## Numbers -/

/-- The number that some digits denote. -/
def natural (digits : List Char) : Nat :=
  digits.foldl (fun n c => 10 * n + (c.toNat - '0'.toNat)) 0

/-- Digits, at least one, and the text behind them. -/
def readDigits (s : List Char) : Option (List Char × List Char) :=
  let digits := s.takeWhile Char.isDigit
  if digits.isEmpty then none else some (digits, s.dropWhile Char.isDigit)

/-- The digits behind a point, and the text behind them; none where no point stands. -/
def readFraction (s : List Char) : Option (List Char × List Char) :=
  match s with
  | '.' :: rest => readDigits rest
  | _ => none

def readExponent (s : List Char) : Option (Int × List Char) :=
  let digits (sign : Int) (s : List Char) := (readDigits s).map fun (ds, rest) => (sign * natural ds, rest)
  match s with
  | 'e' :: rest | 'E' :: rest =>
    match rest with
    | '-' :: rest => digits (-1) rest
    | '+' :: rest => digits 1 rest
    | rest => digits 1 rest
  | _ => none

/-- The number at the start of a text, and the text behind it. -/
def readNumber (s : List Char) : Option (Value × List Char) :=
  let negative := s.head? = some '-'
  match readDigits (if negative then s.drop 1 else s) with
  | none => none
  | some (whole, rest) =>
    let fraction := readFraction rest
    let rest := fraction.elim rest (·.2)
    let exponent := readExponent rest
    let rest := exponent.elim rest (·.2)
    if fraction.isNone && exponent.isNone then
      some (.int (if negative then -natural whole else natural whole), rest)
    else
      let places := fraction.elim [] (·.1)
      let e : Int := exponent.elim 0 (·.1)
      some (.measured (.ofDecimal negative (natural (whole ++ places)) (e - places.length)), rest)

/-! ## Values -/

/-- The values that have a name. -/
def named : List (String × Value) :=
  [("null", .null), ("true", .bool true), ("false", .bool false),
    ("Infinity", .measured (.infinite false)), ("-Infinity", .measured (.infinite true))]

def readNamed (s : List Char) : Option (Value × List Char) :=
  named.findSome? fun (name, v) => (name.toList.isPrefixOf? s).map fun rest => (v, rest)

mutual
/-- The value at the start of a text, and the text behind it; `fuel` bounds the number of values. -/
def readValue : (fuel : Nat) → List Char → Option (Value × List Char)
  | 0, _ => none
  | fuel + 1, s =>
    match skipBlanks s with
    | '"' :: rest => (readString [] rest).map fun (t, rest) => (.text t, rest)
    | '[' :: rest =>
      match skipBlanks rest with
      | ']' :: rest => some (.list [], rest)
      | rest => readItems fuel [] rest
    | '\x7b' :: rest =>
      match skipBlanks rest with
      | '\x7d' :: rest => some (.object [], rest)
      | rest => readFields fuel Table.empty rest
    | rest => (readNamed rest).or (readNumber rest)

/-- The rest of a list, of which one item at least is to come; `done` has been read, the last item
first. -/
def readItems : (fuel : Nat) → List Value → List Char → Option (Value × List Char)
  | 0, _, _ => none
  | fuel + 1, done, s =>
    match readValue fuel s with
    | none => none
    | some (v, rest) =>
      match skipBlanks rest with
      | ',' :: rest => readItems fuel (v :: done) rest
      | ']' :: rest => some (.list (v :: done).reverse, rest)
      | _ => none

/-- The rest of an object, of which one field at least is to come. -/
def readFields : (fuel : Nat) → Table Value → List Char → Option (Value × List Char)
  | 0, _, _ => none
  | fuel + 1, done, s =>
    match skipBlanks s with
    | '"' :: rest =>
      match readString [] rest with
      | none => none
      | some (name, rest) =>
        match skipBlanks rest with
        | ':' :: rest =>
          match readValue fuel rest with
          | none => none
          | some (v, rest) =>
            match skipBlanks rest with
            | ',' :: rest => readFields fuel (done.insert name v) rest
            | '\x7d' :: rest => some (.object (done.insert name v).entries, rest)
            | _ => none
        | _ => none
    | _ => none
end

/-- The value of a text that holds one value and nothing else. -/
def read (s : String) : Option Value :=
  match readValue (s.toList.length + 1) s.toList with
  | some (v, rest) => if (skipBlanks rest).isEmpty then some v else none
  | none => none

end ObjectChannel.Json
