/-
Log records and their two written forms: a JSON object on one line, and a plain line.
-/
import ObjectChannel.Json.Writer
import ObjectChannel.Log.Level
import ObjectChannel.Table

namespace ObjectChannel.Log

structure Record where
  level : Level
  logger : String
  message : String
  /-- The name that is shown for the level. -/
  levelName : String := Level.name level
  /-- Entries that the JSON form shows besides the fixed ones. -/
  extra : List (String × Value) := []
  /-- The text of the failure that the record reports, if it reports one. -/
  failure : Option String := none
  deriving Inhabited

namespace Record

/-- The entries of the JSON form. An extra entry with the name of a fixed one takes its place;
the failure comes after all entries, or in the place of an extra entry of its name. -/
def payload (r : Record) : Table Value :=
  let fixed : Table Value :=
    ⟨[("level", .text r.levelName), ("logger", .text r.logger), ("message", .text r.message)]⟩
  let merged := fixed.update ⟨r.extra⟩
  match r.failure with
  | some t => merged.insert "exc_info" (.text t)
  | none => merged

def json (nesting : Nat) (r : Record) : Except Unwritable String :=
  Json.write nesting (.object r.payload.entries)

def plain (r : Record) : String :=
  r.levelName ++ " " ++ r.logger ++ ": " ++ r.message

end Record
end ObjectChannel.Log
