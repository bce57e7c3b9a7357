/-
JSON text on one line: fields in order, a blank after each comma and colon. Inside a string the
quotation mark, the backslash and the characters below the blank are escaped, and nothing else is.
A measured number is written as the shortest text that is read as the number.
-/
import ObjectChannel.Value

namespace ObjectChannel.Json

/-- One character inside a string. -/
def escaped (c : Char) : List Char :=
  if c = '"' then ['\\', '"']
  else if c = '\\' then ['\\', '\\']
  else if c = '\n' then ['\\', 'n']
  else if c = '\r' then ['\\', 'r']
  else if c = '\t' then ['\\', 't']
  else if c = '\x08' then ['\\', 'b']
  else if c = '\x0c' then ['\\', 'f']
  else if c.toNat < 32 then '\\' :: 'u' :: Text.hexDigits 4 c.toNat
  else [c]

def writeString (s : String) : List Char := '"' :: s.toList.flatMap escaped ++ ['"']

mutual
def writeValue : Value → List Char
  | .null => "null".toList
  | .bool true => "true".toList
  | .bool false => "false".toList
  | .int n => (toString n).toList
  | .measured m => (m.text "Infinity").toList
  | .text s => writeString s
  | .list [] => ['[', ']']
  | .list (v :: vs) => '[' :: writeValue v ++ writeItems vs
  | .object [] => ['\x7b', '\x7d']
  | .object ((k, v) :: fs) =>
    '\x7b' :: writeString k ++ ':' :: ' ' :: writeValue v ++ writeFields fs

/-- The items behind the first one, and the closing bracket. -/
def writeItems : List Value → List Char
  | [] => [']']
  | v :: vs => ',' :: ' ' :: writeValue v ++ writeItems vs

/-- The fields behind the first one, and the closing brace. -/
def writeFields : List (String × Value) → List Char
  | [] => ['\x7d']
  | (k, v) :: fs => ',' :: ' ' :: writeString k ++ ':' :: ' ' :: writeValue v ++ writeFields fs
end

mutual
/-- Whether a value can be written, or the first thing in it that cannot: a number with too many digits,
or a list or an object within more than `nesting` of them, itself counted. -/
def check : (nesting : Nat) → Value → Except Unwritable Unit
  | _, .int n => if Text.isTooLong n then .error .tooManyDigits else .ok ()
  | 0, .list _ | 0, .object _ => .error .tooDeep
  | nesting + 1, .list items => checkItems nesting items
  | nesting + 1, .object fields => checkFields nesting fields
  | _, _ => .ok ()

def checkItems (nesting : Nat) : List Value → Except Unwritable Unit
  | [] => .ok ()
  | v :: vs => do
    check nesting v
    checkItems nesting vs

def checkFields (nesting : Nat) : List (String × Value) → Except Unwritable Unit
  | [] => .ok ()
  | (_, v) :: fs => do
    check nesting v
    checkFields nesting fs
end

/-- The value as JSON text, if it can be written. -/
def write (nesting : Nat) (v : Value) : Except Unwritable String := do
  check nesting v
  return .ofList (writeValue v)

end ObjectChannel.Json
