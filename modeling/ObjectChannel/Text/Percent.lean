/-
Messages with places for values. A place is a percent sign, then flags, a width and a precision, all
optional, and a letter that tells how the value is written. A place may name its value, if the values
have names. Every value has to be used, unless the values have names.
-/
import ObjectChannel.Platform

namespace ObjectChannel.Text

/-- What is wrong with a message or its values. -/
inductive PercentFault where
  | tooFewValues
  | tooManyValues
  /-- A value is not of the kind that its place asks for. -/
  | wrongKind
  /-- A place asks for a name where the values have none. -/
  | noNames
  | unknownName
  /-- A place ends too early, or its letter has no meaning. -/
  | badPlace
  /-- A number is not that of a character. -/
  | noCharacter
  /-- A number is too large for the form that its place asks for. -/
  | tooLarge
  /-- A place asks for more characters than there is room for. -/
  | noMemory
  /-- A value is not written. -/
  | unwritable (why : Unwritable)
  deriving DecidableEq, Inhabited

/-- How a place wants its value written. -/
structure Place where
  left : Bool := false
  plus : Bool := false
  space : Bool := false
  alternate : Bool := false
  zero : Bool := false
  width : Nat := 0
  precision : Option Nat := none
  deriving Inhabited

/-- The sign of a number. One that is not below zero has one only if the place asks for it. -/
def Place.sign (p : Place) (negative : Bool) : List Char :=
  if negative then ['-'] else if p.plus then ['+'] else if p.space then [' '] else []

/-- The values that places still take. -/
inductive Supply where
  /-- In order, one for each place. -/
  | ordered (values : List Value)
  /-- By name. What comes next is the value that was named last, or all of them while none was. -/
  | named (fields : List (String × Value)) (pending : Option Value)

namespace Percent

/-- The next value. -/
def next : Supply → Except PercentFault (Value × Supply)
  | .ordered (v :: vs) => .ok (v, .ordered vs)
  | .ordered [] => .error .tooFewValues
  | .named fields (some v) => .ok (v, .named fields none)
  | .named _ none => .error .tooFewValues

/-- The digits of a number to a base up to sixteen, at least one. -/
def digitsOf (base n : Nat) : List Char := Nat.toDigits base n

variable (platform : Platform)

/-- The text brought to the place's width. Zeros go between `lead` and the rest. -/
def padded (p : Place) (fill : Char) (lead rest : List Char) : Except PercentFault (List Char) :=
  let missing := p.width - (lead.length + rest.length)
  if platform.room < p.width then .error .noMemory
  else if p.left then .ok (lead ++ rest ++ List.replicate missing ' ')
  else if fill = '0' then .ok (lead ++ List.replicate missing '0' ++ rest)
  else .ok (List.replicate missing ' ' ++ lead ++ rest)

/-- The largest precision of a whole number. -/
def maxDigits : Nat := 2147483644

/-- A whole number to a base, with its sign and the mark of the base. -/
def number (p : Place) (base : Nat) (mark : List Char) (capital : Bool) (n : Int) :
    Except PercentFault (List Char) :=
  let digits := digitsOf base n.natAbs
  let digits := if capital then digits.map Char.toUpper else digits
  let wanted := p.precision.getD 0
  if maxDigits < wanted then .error .tooLarge
  else if base = 10 ∧ Text.isTooLong n = true then .error (.unwritable .tooManyDigits)
  else if platform.room < wanted then .error .noMemory
  else
    let digits := List.replicate (wanted - digits.length) '0' ++ digits
    padded platform p (if p.zero then '0' else ' ')
      (p.sign (n < 0) ++ if p.alternate then mark else []) digits

/-- A measured number in one of its forms, which has six places unless others are asked for. -/
def measured (p : Place) (form : Nat → Bool → Double → List Char) (capital : Bool) (m : Measured) :
    Except PercentFault (List Char) :=
  let places := p.precision.getD 6
  if platform.room < places then .error .noMemory
  else
    let text := m.sizeText "inf" (form places p.alternate)
    padded platform p (if p.zero then '0' else ' ') (p.sign m.isNegative)
      (if capital then text.map Char.toUpper else text)

def string (p : Place) (s : String) : Except PercentFault (List Char) :=
  let s := s.toList
  padded platform p ' ' [] (p.precision.elim s (s.take ·))

/-- The number that a value counts as where measured ones do not count. -/
def numberOf : Value → Except PercentFault Int
  | .int n => .ok n
  | .bool b => .ok (if b then 1 else 0)
  | _ => .error .wrongKind

/-- The number that a value counts as, a measured one without what stands behind its point. -/
def wholeOf : Value → Except PercentFault Int
  | .measured m =>
    match m.truncate? with
    | some n => .ok n
    | none => .error .tooLarge
  | v => numberOf v

/-- The measured number that a value counts as. -/
def measuredOf : Value → Except PercentFault Measured
  | .measured m => .ok m
  | v => do
    match Measured.ofInt? (← numberOf v) with
    | some m => .ok m
    | none => .error .tooLarge

/-- A character, given as one or by its number. -/
def character : Value → Except PercentFault (List Char)
  | .text s => match s.toList with
    | [c] => .ok [c]
    | _ => .error .wrongKind
  | v => do
    let n ← numberOf v
    if 0 ≤ n ∧ n ≤ 0x10FFFF then .ok [Char.ofNat n.toNat] else .error .noCharacter

/-- What is not ASCII written by its number. -/
def asciiOnly (s : String) : String :=
  .ofList (s.toList.flatMap fun c =>
    if c.toNat < 128 then [c]
    else if c.toNat < 0x100 then '\\' :: 'x' :: hexDigits 2 c.toNat
    else if c.toNat < 0x10000 then '\\' :: 'u' :: hexDigits 4 c.toNat
    else '\\' :: 'U' :: hexDigits 8 c.toNat)

/-- A value as the letter of its place wants it. -/
def written (p : Place) (letter : Char) (v : Value) : Except PercentFault (List Char) :=
  match letter with
  | 's' => do string platform p (← (v.display platform.nesting).mapError .unwritable)
  | 'r' => do string platform p (← (v.quoted platform.nesting).mapError .unwritable)
  | 'a' => do string platform p (asciiOnly (← (v.quoted platform.nesting).mapError .unwritable))
  | 'd' | 'i' | 'u' => do number platform p 10 [] false (← wholeOf v)
  | 'o' => do number platform p 8 ['0', 'o'] false (← numberOf v)
  | 'x' => do number platform p 16 ['0', 'x'] false (← numberOf v)
  | 'X' => do number platform p 16 ['0', 'X'] true (← numberOf v)
  | 'f' => do measured platform p Text.Scientific.fixed false (← measuredOf v)
  | 'F' => do measured platform p Text.Scientific.fixed true (← measuredOf v)
  | 'e' => do measured platform p Text.Scientific.scientific false (← measuredOf v)
  | 'E' => do measured platform p Text.Scientific.scientific true (← measuredOf v)
  | 'g' => do measured platform p Text.Scientific.general false (← measuredOf v)
  | 'G' => do measured platform p Text.Scientific.general true (← measuredOf v)
  | 'c' => do padded platform p ' ' [] (← character v)
  | _ => .error .badPlace

/-! ## Reading a place -/

/-- The name in parentheses at the start of a place; `depth` counts the open ones. -/
def nameOf (depth : Nat) (name : List Char) : List Char → Option (String × List Char)
  | [] => none
  | ')' :: rest =>
    if depth = 0 then some (.ofList name.reverse, rest) else nameOf (depth - 1) (')' :: name) rest
  | '(' :: rest => nameOf (depth + 1) ('(' :: name) rest
  | c :: rest => nameOf depth (c :: name) rest

/-- The values with that chosen whose name stands at the start of a place, if one does. -/
def select (s : Supply) : List Char → Except PercentFault (Supply × List Char)
  | '(' :: rest =>
    match s with
    | .ordered _ => .error .noNames
    | .named fields _ =>
      match nameOf 0 [] rest with
      | none => .error .badPlace
      | some (name, rest) =>
        match fields.lookup name with
        | some v => .ok (.named fields (some v), rest)
        | none => .error .unknownName
  | text => .ok (s, text)

def flagsOf (p : Place) : List Char → Place × List Char
  | '-' :: rest => flagsOf { p with left := true } rest
  | '+' :: rest => flagsOf { p with plus := true } rest
  | ' ' :: rest => flagsOf { p with space := true } rest
  | '#' :: rest => flagsOf { p with alternate := true } rest
  | '0' :: rest => flagsOf { p with zero := true } rest
  | rest => (p, rest)

/-- A number in the place, or an asterisk for the next value; none where neither stands. The number
must not exceed the limit. -/
def amountOf (limit : Int) (s : Supply) (text : List Char) :
    Except PercentFault (Option Int × Supply × List Char) :=
  match text with
  | '*' :: rest => do
    let (v, s) ← next s
    let n ← numberOf v
    if limit < n ∨ n < -limit - 1 then .error .tooLarge else .ok (some n, s, rest)
  | text =>
    let digits := text.takeWhile Char.isDigit
    let n := digits.foldl (fun n c => 10 * n + (c.toNat - '0'.toNat)) 0
    if limit < n then .error .badPlace
    else .ok (if digits.isEmpty then none else some n, s, text.dropWhile Char.isDigit)

/-- The largest width, and the largest precision, that a place may ask for. -/
def maxWidth : Int := 9223372036854775807

def maxPrecision : Int := 2147483647

def withWidth (p : Place) : Option Int → Place
  | none => p
  | some n => { p with left := p.left || n < 0, width := n.natAbs }

/-- The place at the start of the text, behind its percent sign: the value as it is written, the
values left, and the text behind the place. -/
def place (s : Supply) (text : List Char) :
    Except PercentFault (List Char × Supply × List Char) := do
  let (s, text) ← select s text
  let (p, text) := flagsOf {} text
  let (width, s, text) ← amountOf maxWidth s text
  let p := withWidth p width
  let (p, s, text) ← match text with
    | '.' :: rest => do
      let (n, s, rest) ← amountOf maxPrecision s rest
      .ok ({ p with precision := some (n.getD 0).toNat }, s, rest)
    | text => .ok (p, s, text)
  let text := match text with
    | 'h' :: rest | 'l' :: rest | 'L' :: rest => rest
    | text => text
  match text with
  | [] => .error .badPlace
  | letter :: rest => do
    let (v, s) ← next s
    return (← written platform p letter v, s, rest)

/-- The message with its places filled; `fuel` bounds their number. -/
def fill : (fuel : Nat) → Supply → List Char → Except PercentFault (List Char)
  | 0, _, _ => .error .badPlace
  | _ + 1, s, [] =>
    match s with
    | .ordered (_ :: _) => .error .tooManyValues
    | _ => .ok []
  | fuel + 1, s, '%' :: '%' :: rest => do return '%' :: (← fill fuel s rest)
  | fuel + 1, s, '%' :: rest => do
    let (text, s, rest) ← place platform s rest
    return text ++ (← fill fuel s rest)
  | fuel + 1, s, c :: rest => do return c :: (← fill fuel s rest)

end Percent

/-- The message with the values in its places. Without values it is left as it is. A single object
that is not empty gives its fields as named values. -/
def percent (platform : Platform) (message : String) (values : List Value) :
    Except PercentFault String :=
  let filled (s : Supply) :=
    (Percent.fill platform (message.toList.length + 1) s message.toList).map String.ofList
  match values with
  | [] => .ok message
  | [.object (f :: fs)] => filled (.named (f :: fs) (some (.object (f :: fs))))
  | values => filled (.ordered values)

end ObjectChannel.Text
