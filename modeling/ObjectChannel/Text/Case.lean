/-
Small and capital forms of a text, in full: one letter may become several (`ß` becomes `SS`), and
a capital sigma at the end of a word becomes the final small sigma.
-/
import ObjectChannel.Text.CaseTable

namespace ObjectChannel.Text

/-- The code points that `n` maps to under a pair of tables; `n` itself where both are silent. -/
def mapCode (runs : List CaseRun) (long : List (Nat × List Nat)) (n : Nat) : List Nat :=
  match long.lookup n with
  | some codes => codes
  | none =>
    match runs.find? (·.holds n) with
    | some r => [((n : Int) + r.shift).toNat]
    | none => [n]

def upperChar (c : Char) : List Char :=
  if c.toNat < 128 then [c.toUpper] else (mapCode upperRuns upperLong c.toNat).map Char.ofNat

def lowerChar (c : Char) : List Char :=
  if c.toNat < 128 then [c.toLower] else (mapCode lowerRuns lowerLong c.toNat).map Char.ofNat

/-- Whether the nearest letter of a side, marks passed over, has a case. -/
def meetsCased (side : List Char) : Bool :=
  match side.dropWhile fun c => caseIgnorable.contains c.toNat with
  | c :: _ => cased.contains c.toNat
  | [] => false

/-- The small form of what follows `before` (nearest letter first). -/
def lowerAfter (before : List Char) : List Char → List Char
  | [] => []
  | c :: rest =>
    (if c = 'Σ' then
        if meetsCased before && !meetsCased rest then ['ς'] else ['σ']
      else lowerChar c) ++ lowerAfter (c :: before) rest

/-- The text in small letters. -/
def lower (s : String) : String := .ofList (lowerAfter [] s.toList)

/-- The text in capital letters. -/
def upper (s : String) : String := .ofList (s.toList.flatMap upperChar)

end ObjectChannel.Text
