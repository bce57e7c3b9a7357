/-
Carrying out a command line: its words are understood first, then the settings are loaded and the log
is set up, then a service is reached, and then the task is done. What a channel fails at is reported
in one line; every other failure goes on to whoever ran the command line.
-/
import ObjectChannel.CommandLine.Task
import ObjectChannel.Files
import ObjectChannel.Log.Tree
import ObjectChannel.Service
import ObjectChannel.Settings.Load

namespace ObjectChannel.CommandLine

/-- What a command line works on, and what it writes. -/
structure Console (σ : Type) where
  world : World σ
  files : Files := {}
  settings : SettingsSource := {}
  /-- Where log records go, once that is known. -/
  log : Option Log.Tree := none
  output : Bytes := .empty

/-- How a command line ended. -/
inductive Ending where
  | done
  /-- It was not carried out. -/
  | stopped (why : Stop)
  /-- A channel failed. -/
  | failed (fault : ChannelFault)
  deriving Inhabited

namespace Ending

/-- The number that the program ends with. -/
def status : Ending → Nat
  | .done => 0
  | .stopped .help => 0
  | .stopped .usage => 2
  | .failed _ => 1

/-- The line that reports a failed channel. -/
def report? : Ending → Option String
  | .failed f => some ("error (" ++ f.kind.code ++ "): " ++ f.text)
  | _ => none

end Ending

variable {σ τ α : Type}

namespace Console

def onWorld (x : Action (World σ) α) : Action (Console σ) α :=
  x.zoom (·.world) fun w c => { c with world := w }

/-- The lines of the log. Nothing is written before it is set up. -/
def logLines (p : Platform) (c : Console σ) : Except Unwritable (List String) :=
  match c.log with
  | some tree => tree.linesOf p.nesting (c.world.events.toList.map (·.record))
  | none => .ok []

def loadSettings : Action (Console σ) Settings := fun c =>
  match c.settings.get with
  | (r, source) => (r.map (·.settings), { c with settings := source })

def setUpLog (s : Settings) : Action (Console σ) Unit := do
  let tree ← Action.ofExcept (Log.Tree.ofSettings (.name s.logLevel) s.logFormat)
  Action.modify fun c => { c with log := some tree }

def readFile (path : String) : Action (Console σ) Bytes := fun c => (c.files.read path, c)

def writeFile (path : String) (data : Bytes) : Action (Console σ) Unit := fun c =>
  match c.files.write path data with
  | .ok files => (.ok (), { c with files })
  | .error e => (.error e, c)

/-- Shows some bytes. Texts are taken to be ones that the output can encode. -/
def print (data : Bytes) : Action (Console σ) Unit :=
  .modify fun c => { c with output := c.output ++ data }

end Console

open Console

/-- The pieces that a file is read in, `size` bytes at a time until nothing comes. Of no bytes none
comes, and minus one asks for everything at once. -/
def piecesOf (p : Platform) (data : Bytes) (size : Int) : Except Failure (List Bytes) :=
  if size = -1 then
    ((LocalFile.opened ⟨[.read]⟩ data).read p none).map fun (d, _) => if d.isEmpty then [] else [d]
  else (p.capacity Capacity.maxFresh size).map data.pieces

/-- Writes pieces one after the other, and returns how many bytes they have; `total` have been written
already. -/
def writePieces (b : Backend σ τ) (limits : Limits) (total : Nat) :
    List Bytes → Writer.Step σ Nat
  | [], s => (.ok total, s)
  | piece :: rest, s =>
    match Writer.write b limits (some piece) s with
    | (.ok n, s) => writePieces b limits (total + n) rest s
    | (.error e, s) => (.error e, s)

/-- Writes pieces and publishes the object; on a failure nothing is published. -/
def publishPieces (b : Backend σ τ) (limits : Limits) (pieces : Except Failure (List Bytes)) :
    Writer.Step σ Nat := do
  let written : Writer.Step σ Nat := do writePieces b limits 0 (← Action.ofExcept pieces)
  let total ← written.onFailure (Writer.discard b)
  Writer.close b limits
  return total

/-- Stores a file as the object of a key, and returns its size. -/
def upload (s : Service σ τ) (limits : Limits) (source : String) (key : Option String) :
    Action (Console σ) Nat := do
  let data ← readFile source
  match key with
  | none => Action.fail .keyMissing
  | some key =>
    let writer ← Action.ofExcept (s.openWriter key none Table.empty)
    onWorld (ChannelAction.runOn writer
      (publishPieces s.backend limits (piecesOf limits.platform data limits.copyChunk)))

/-- Copies a mirror into the file at a path, `size` bytes at a time until nothing comes; `got` has been
copied already. A piece is written before the next one is read. Nothing comes of a mirror without
end. -/
def Console.copyPieces (p : Platform) (size : Int) (path : String) (got : Bytes) (m : Mirrored)
    (c : Console σ) : Option (Except Failure Bytes × Console σ) :=
  match Mirrored.read p (some size) (m, c.world) with
  | (.error e, (_, w)) => some (.error e, { c with world := w })
  | (.ok piece, (m, w)) =>
    if piece.isEmpty then some (.ok got, { c with world := w })
    else
      match writeFile path (got ++ piece) { c with world := w } with
      | (.error e, c) => some (.error e, c)
      | (.ok _, c) => c |>.copyPieces p size path (got ++ piece) m
partial_fixpoint

/-- The size of the pieces where none is given. -/
def usualPiece : Int := 65536

/-- Copies a mirror into the file at a path, in pieces of a size; zero stands for the usual one. -/
def copyMirror (p : Platform) (size : Int) (path : String) (m : Mirrored) : Action (Console σ) Bytes :=
  fun c =>
    (c.copyPieces p (if size = 0 then usualPiece else size) path .empty m).getD (.error .endless, c)

/-- Fetches the object of a key into a file, and returns its size. The file is emptied only after the
object was found. -/
def download (s : Service σ τ) (limits : Limits) (key : String) (target : Option String) :
    Action (Console σ) Nat := do
  let channel ← onWorld (s.openChannel limits key { options := some [.option .read] })
  let copy : Action (Console σ) Nat := do
    match target with
    | none => Action.fail .pathMissing
    | some path =>
      writeFile path .empty
      return (← copyMirror limits.platform limits.copyChunk path channel).size
  copy.ensuring
    (onWorld (ChannelAction.runOn channel (Mirrored.close s.backend limits ContentType.ofName)))

/-- A number that is there. -/
def numberOf (n : Option Int) : Except Failure Int :=
  match n with
  | some n => .ok n
  | none => .error .numberMissing

/-- The bytes of an object in a range. Where the range begins matters before how long it is. -/
def readRange (s : Service σ τ) (limits : Limits) (key : String) (offset length : Option Int) :
    Action (Console σ) Bytes := do
  let object ← Action.ofExcept (s.objectId key)
  let reader ← Action.ofExcept (do Reader.opened object (← numberOf offset))
  let size ← Action.ofExcept (numberOf length)
  onWorld (ChannelAction.runOn reader (Reader.read s.backend limits (some size)))

/-- Does a task, and tells what was done. -/
def perform (s : Service σ τ) (limits : Limits) : Task → Action (Console σ) Unit
  | .upload source key => do
    let total ← upload s limits source key
    let object ← Action.ofExcept (s.objectId (key.getD ""))
    print s!"Uploaded {total} bytes to {object.uri}\n".toUTF8
  | .download key target => do
    let total ← download s limits key target
    let object ← Action.ofExcept (s.objectId key)
    print s!"Downloaded {total} bytes from {object.uri}\n".toUTF8
  | .readRange key offset length => do
    print (← readRange s limits key offset length)

/-- A task, with what a channel fails at as its ending. -/
def ending (x : Action (Console σ) Unit) : Action (Console σ) Ending := fun c =>
  match x c with
  | (.ok _, c) => (.ok .done, c)
  | (.error (.channel fault _), c) => (.ok (.failed fault), c)
  | (.error e, c) => (.error e, c)

/-- Carries out a command line. `reach` provides the service for the settings and the bucket asked
for. -/
def run (reach : Settings → Option String → Action (World σ) (Service σ τ)) (limits : Limits)
    (texts : List String) : Action (Console σ) Ending := do
  match Invocation.ofTexts texts with
  | .error why => return .stopped why
  | .ok invocation =>
    let settings ← loadSettings
    setUpLog settings
    let service ← onWorld (reach settings invocation.bucket)
    let _ ← onWorld service.exposeMetrics
    ending (perform service limits invocation.task)

end ObjectChannel.CommandLine
