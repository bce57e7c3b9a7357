/-
The program: a command line carried out over a store that lives as long as the program does. Only the
variables, the files that the command line names and the standard streams are touched here.
-/
import ObjectChannel.CommandLine.Run
import ObjectChannel.Settings.Fields

namespace ObjectChannel.CommandLine

/-- The paths of the files that a command line reads, and of those that it writes. -/
def pathsOf (texts : List String) : List String × List String :=
  match Invocation.ofTexts texts with
  | .ok { task := .upload source _, .. } => ([source], [])
  | .ok { task := .download _ target, .. } => ([], target.toList)
  | _ => ([], [])

/-- The place that a path seems to lead to, if all on the way are directories. -/
def placeOf (path : String) : Place :=
  match Path.ofText path with
  | .ok p => p.names.foldl Place.next []
  | .error _ => []

def readIfThere (path : String) : IO (Option Bytes) := do
  try return some (← IO.FS.readBinFile path)
  catch _ => return none

def readVariables : IO Environment := do
  let mut env : Environment := Table.empty
  for (name, _) in ({} : Settings).fields do
    match ← IO.getEnv name with
    | some value => env := env.insert name value
    | none => pure ()
  return env

/-- The directories on the way to a place. -/
def wayTo (p : Place) : List Place := (List.range p.length).map p.take

/-- The files that a command line can read, and the directories that it can write to. -/
def filesFor (texts : List String) : IO Files := do
  let (sources, targets) := pathsOf texts
  let directories := (sources ++ targets).flatMap fun path => wayTo (placeOf path)
  let mut files : Files := { directories := [] :: directories }
  for path in sources do
    match ← readIfThere path with
    | some data => files := files.put (placeOf path) data
    | none => pure ()
  return files

/-- A service of the given settings, over a store where all goes well. -/
def reach (settings : Settings) (bucket : Option String) :
    Action (World S3.Service) (Service S3.Service (S3.Body Store.Stream)) :=
  Service.create settings bucket
    (Service.reachS3 settings Store.Plan.none (Store.StreamPlan.ofList [] {}) ({} : Platform).nesting)

end ObjectChannel.CommandLine

open ObjectChannel CommandLine in
def main (args : List String) : IO UInt32 := do
  let console : Console S3.Service := {
    world := { store := {} }
    files := ← filesFor args
    settings := { environment := ← readVariables, file := ← readIfThere ".env" } }
  let (result, console) := run reach {} args console
  let stderr ← IO.getStderr
  for line in (console.logLines {}).toOption.getD [] do
    stderr.putStrLn line
  for path in (pathsOf args).2 do
    match console.files.contents.get? (Place.path (placeOf path)) with
    | some data => IO.FS.writeBinFile path data
    | none => pure ()
  (← IO.getStdout).write console.output
  match result with
  | .error e =>
    stderr.putStrLn e.text
    return UInt32.ofNat 1
  | .ok ending =>
    for line in ending.report?.toList do
      stderr.putStrLn line
    return UInt32.ofNat ending.status
