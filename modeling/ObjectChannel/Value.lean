/-
Data without a fixed shape: the fields of a store's reply, the extra entries of a log record, and
what a caller hands over where only some values are allowed.
-/
import ObjectChannel.Measured
import ObjectChannel.Text.Integer
import ObjectChannel.Text.Quoted

namespace ObjectChannel

inductive Value where
  | null
  | bool (b : Bool)
  | int (n : Int)
  | measured (m : Measured)
  | text (s : String)
  | list (items : List Value)
  /-- Named fields, in order. -/
  | object (fields : List (String × Value))
  deriving Inhabited

/-- Why a value is not written. -/
inductive Unwritable where
  /-- A number in it has more digits than are written. -/
  | tooManyDigits
  /-- It is nested deeper than values are followed. -/
  | tooDeep
  deriving DecidableEq, Inhabited

namespace Value

/-- The field `name` of an object. -/
def field? : Value → String → Option Value
  | .object fields, name => fields.lookup name
  | _, _ => none

/-- Whether the value counts as given: null, zero, false and what is empty do not. -/
def isPresent : Value → Bool
  | .null => false
  | .bool b => b
  | .int n => n != 0
  | .measured m => !m.isZero
  | .text s => s != ""
  | .list items => !items.isEmpty
  | .object fields => !fields.isEmpty

mutual
/-- The value inside a message, with texts between quotation marks. Values are followed through so many
levels of `nesting`, of which the value itself is one. -/
def quoted : (nesting : Nat) → Value → Except Unwritable String
  | 0, _ => .error .tooDeep
  | _ + 1, .null => .ok "None"
  | _ + 1, .bool true => .ok "True"
  | _ + 1, .bool false => .ok "False"
  | _ + 1, .int n => if Text.isTooLong n then .error .tooManyDigits else .ok (toString n)
  | _ + 1, .measured m => .ok (m.text "inf")
  | _ + 1, .text s => .ok (Text.quoted s)
  | nesting + 1, .list items => do
    return "[" ++ ", ".intercalate (← quotedItems nesting items) ++ "]"
  | nesting + 1, .object fields => do
    return "\x7b" ++ ", ".intercalate (← quotedFields nesting fields) ++ "\x7d"

def quotedItems (nesting : Nat) : List Value → Except Unwritable (List String)
  | [] => .ok []
  | v :: vs => do return (← quoted nesting v) :: (← quotedItems nesting vs)

def quotedFields (nesting : Nat) : List (String × Value) → Except Unwritable (List String)
  | [] => .ok []
  | (k, v) :: fs => do
    return (Text.quoted k ++ ": " ++ (← quoted nesting v)) :: (← quotedFields nesting fs)
end

/-- The value as a message shows it: a text as it is, all else as `quoted` writes it. -/
def display (nesting : Nat) : Value → Except Unwritable String
  | .text s => .ok s
  | v => quoted nesting v

/-- A text, or null where there is none. -/
def ofText? : Option String → Value
  | some s => .text s
  | none => .null

end Value
end ObjectChannel
