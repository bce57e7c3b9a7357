/-
Where log records go. Loggers form a tree by the dots in their names, with the root above all. A
record passes if its level is at least that of the nearest logger on the way up that has one. The
startup logger has a level and an output of its own, always plain; all others write to the root's
output.
-/
import ObjectChannel.Failure
import ObjectChannel.Log.Event

namespace ObjectChannel.Log

/-- A level as a setting gives it. -/
inductive LevelSetting where
  | name (s : String)
  | number (n : Int)
  /-- None is given, and the root keeps the level that it has. -/
  | unset
  /-- What is given is neither a name nor a number. -/
  | other
  deriving DecidableEq, Inhabited

inductive LineFormat where
  | plain
  | json
  deriving DecidableEq, Inhabited

structure Tree where
  rootLevel : Level
  format : LineFormat
  /-- The level of the package's logger, if it has one. -/
  packageLevel : Option Level := none
  deriving Inhabited

namespace Tree

/-- The level of the startup logger. -/
def startupLevel : Level := Level.info

/-- The format that a text names: plain where it says so exactly, and otherwise JSON. -/
def formatOf (s : String) : LineFormat := if s = "plain" then .plain else .json

/-- The tree with the given settings, if the level is one. -/
def ofSettings (level : LevelSetting) (format : String) : Except Failure Tree :=
  match level with
  | .number n => .ok { rootLevel := n, format := formatOf format }
  | .unset => .ok { rootLevel := Level.warning, format := formatOf format }
  | .other => .error .logLevelKind
  | .name s =>
    match Level.ofName? s with
    | some n => .ok { rootLevel := n, format := formatOf format }
    | none => .error .logLevel

/-- The package's logger, the parent of all its others. -/
def package : String := "s3channels"

/-- The logger of a name or one below it. -/
def isWithin (logger parent : String) : Bool :=
  logger = parent || (parent ++ ".").toList.isPrefixOf logger.toList

/-- The level that a logger works with; zero counts as none. -/
def effectiveLevel (t : Tree) (logger : String) : Level :=
  if isWithin logger Event.startupLog then startupLevel
  else
    match isWithin logger package, t.packageLevel with
    | true, some n => if n = 0 then t.rootLevel else n
    | _, _ => t.rootLevel

/-- Whether a record passes; one of level zero never does. -/
def passes (t : Tree) (r : Record) : Bool :=
  0 < r.level && t.effectiveLevel r.logger ≤ r.level

/-- The record as it is written. -/
def line (nesting : Nat) (t : Tree) (r : Record) : Except Unwritable String :=
  if isWithin r.logger Event.startupLog then .ok r.plain
  else
    match t.format with
    | .plain => .ok r.plain
    | .json => r.json nesting

/-- What is written for some records. One with too many digits is left out; one that is nested too deep
fails whoever logs it. -/
def linesOf (nesting : Nat) (t : Tree) : List Record → Except Unwritable (List String)
  | [] => .ok []
  | r :: rest =>
    if t.passes r then
      match t.line nesting r with
      | .ok line => do return line :: (← t.linesOf nesting rest)
      | .error .tooManyDigits => t.linesOf nesting rest
      | .error .tooDeep => .error .tooDeep
    else t.linesOf nesting rest

end Tree

end ObjectChannel.Log
