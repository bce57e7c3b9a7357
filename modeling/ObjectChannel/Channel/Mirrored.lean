/-
A random-access channel that works on a local copy of an object, its mirror.

Opening fetches the object into the mirror, unless it is missing or to be emptied. Every operation
then acts on the mirror alone. Closing sends the mirror back as a whole: with one request, or in
parallel if it is large. A channel that was opened for reading only sends nothing, and one that
deletes on close deletes the object instead. The mirror file is removed on every way out.
-/
import ObjectChannel.Channel.Action
import ObjectChannel.ContentType.Detect
import ObjectChannel.Limits
import ObjectChannel.LocalFile
import ObjectChannel.Time.Metadata

namespace ObjectChannel

structure Mirrored where
  object : ObjectId
  options : OpenOptions
  metadata : Metadata
  /-- Whether the content type is found out when the mirror is sent back. -/
  detects : Bool
  /-- The time that the object is to carry. -/
  lastModified : Option Time.DateTime
  mirror : Mirror
  file : LocalFile
  closed : Bool := false
  /-- The reply to storing the mirror with one request. -/
  putResult : Option PutResult := none
  deriving Inhabited

/-- What a caller says about a random-access channel that is to be opened. -/
structure OpenRequest where
  options : Option (List GivenOption) := none
  metadata : Metadata := Table.empty
  directory : Option String := none
  detects : Bool := true
  lastModified : Option Time.DateTime := none
  deriving Inhabited

variable {σ τ : Type}

/-- Reads a stream in steps of `chunk` until it has nothing more; `got` was read before. Nothing comes
of a stream that never ends. -/
def Backend.copyStream (b : Backend σ τ) (chunk : Nat) (t : τ) (got : Bytes) :
    Option (Except Failure Bytes × τ) :=
  match b.read t (some chunk) with
  | .error e => some (.error e, t)
  | .ok (data, t) =>
    if data.isEmpty then some (.ok got, t) else b |>.copyStream chunk t (got ++ data)
partial_fixpoint

namespace Mirrored

open ChannelAction

abbrev Step (σ α : Type) := ChannelAction Mirrored σ α

/-! ## Opening -/

/-- Whether the object is there. -/
def probe (b : Backend σ τ) (object : ObjectId) : Action (World σ) Bool := do
  let attempt : Action (World σ) ObjectHead := World.request b (.head object)
  let head ← attempt.mapFailure (.transferFailed .probe object)
  return head.found

/-- Whether there is an object to fetch. A new object must not be there, and one that is not to be
made has to be; an object that is to be emptied is not looked for. -/
def existing (b : Backend σ τ) (object : ObjectId) (os : OpenOptions) : Action (World σ) Bool := do
  if os.has .truncateExisting then return false
  else
    let found ← probe b object
    if found && os.has .createNew then Action.fail (.ofChannel (.targetExists object))
    else if !found && !os.creates then Action.fail (.ofChannel (.targetMissing object))
    else return found

/-- The content of the object. The stream is closed however the copying ended. -/
def fetchContent (b : Backend σ τ) (limits : Limits) (object : ObjectId) :
    Action (World σ) Bytes := do
  let stream ← World.request b (.get object none)
  match b.copyStream limits.downloadChunk stream .empty with
  | none => Action.fail .endless
  | some (copied, stream) =>
    (Action.ofExcept copied : Action (World σ) Bytes).ensuring (World.onStore (b.close stream))

/-- Fetches the object into its mirror. -/
def download (b : Backend σ τ) (limits : Limits) (object : ObjectId) (m : Mirror) :
    Action (World σ) Bytes := do
  World.log (.mirroring object ((← Action.get).mirrors.path m))
  let content ← (fetchContent b limits object).mapFailure (.transferFailed .download object)
  World.count fun c => { c with mirroredBytes := c.mirroredBytes + content.size }
  return content

/-- Opens a channel on an object. No mirror file is left behind if that fails. -/
def «open» (b : Backend σ τ) (limits : Limits) (object : ObjectId) (r : OpenRequest) :
    Action (World σ) Mirrored := do
  let options ← Action.ofExcept (OpenOptions.ofGiven r.options)
  let found ← existing b object options
  let mirror ← World.createMirror r.directory
  let content ←
    (if found then download b limits object mirror else Action.pure .empty).onFailure
      (World.removeMirror mirror)
  return {
    object, options, mirror
    metadata := r.metadata
    detects := r.detects
    lastModified := r.lastModified
    file := .opened options content }

/-! ## Operations on the mirror -/

def requireOpen : Step σ Unit := do
  let c ← this
  if c.closed then Action.fail (.ofChannel (.closed c.object)) else Action.pure ()

/-- An operation on the mirror file. -/
def onFile {α : Type} (f : LocalFile → Except Failure (α × LocalFile)) : Step σ α := do
  requireOpen
  let (a, file) ← Action.ofExcept (f (← this).file)
  change fun c => { c with file }
  return a

section

variable (p : Platform)

def read (size : Option Int) : Step σ Bytes := onFile (·.read p size)

/-- Reads into a destination, and returns it with the number of bytes read. -/
def readInto (buffer : Bytes) : Step σ (Bytes × Nat) := do
  let data ← onFile (·.readInto p buffer.size)
  return (buffer.overwrite 0 data, data.size)

def write (data : Option Bytes) : Step σ Nat := onFile (·.write p data)

def truncate (size : Option Int) : Step σ Nat := onFile (·.truncate p size)

def seek (offset whence : Int) : Step σ Nat := onFile (·.seek p offset whence)

end

def tell : Step σ Nat := onFile fun f => .ok (f.cursor, f)

def size : Step σ Nat := onFile fun f => .ok (f.content.size, f)

def readable : Step σ Bool := onFile fun f => .ok (f.isReadable, f)

def writable : Step σ Bool := onFile fun f => .ok (f.isWritable, f)

/-! ## Closing -/

/-- The caller's metadata, with the channel's time if it has one. -/
def syncMetadata (c : Mirrored) : Metadata :=
  match c.lastModified with
  | some t => Time.setTimes c.metadata { lastModified := some t }
  | none => c.metadata

def syncInfo (names : ContentType.NameTypes) (c : Mirrored) : ObjectInfo :=
  { contentType :=
      if c.detects then some (ContentType.ofFile names c.file.content (some c.object.fileName))
      else none
    metadata := c.syncMetadata }

/-- Sends the mirror with one request. -/
def putMirror (b : Backend σ τ) (info : ObjectInfo) : Step σ Unit := do
  let c ← this
  let content := c.file.content
  world (World.log (.synchronising content.size c.object))
  world (World.count fun m => { m with putSyncs := m.putSyncs + 1 })
  let attempt : Step σ PutResult :=
    world (World.request b (.put c.object content content.size info))
  let reply ← attempt.mapFailure (.transferFailed .put c.object)
  change fun c => { c with putResult := some reply }
  world (World.count fun m => { m with putBytes := m.putBytes + content.size })

/-- How a failing parallel upload is reported: being stopped, from inside or outside, as an
interrupted transfer. -/
def uploadFailed (object : ObjectId) : Failure → Failure
  | .interrupted => .channel (.interrupted object) (some .interrupted)
  | .cancelled => .channel (.interrupted object) (some .cancelled)
  | e => .transferFailed .upload object e

/-- Sends the mirror in parallel. -/
def uploadMirror (b : Backend σ τ) (limits : Limits) (info : ObjectInfo) : Step σ Unit := do
  let c ← this
  let content := c.file.content
  world (World.log (.synchronisingInParallel content.size c.object limits.parallelWorkers))
  world (World.count fun m => { m with parallelSyncs := m.parallelSyncs + 1 })
  let path := (← Action.get).2.mirrors.path c.mirror
  let attempt : Step σ Unit :=
    world (World.request b (.uploadFile c.object path content limits.parallelWorkers info))
  fun s =>
    match attempt s with
    | (.error e, s) => (.error (uploadFailed c.object e), s)
    | (.ok _, s) =>
      world (World.count fun m => { m with parallelBytes := m.parallelBytes + content.size }) s

/-- Sends the whole mirror to the store. The mirror file has to be there still. -/
def sync (b : Backend σ τ) (limits : Limits) (names : ContentType.NameTypes) : Step σ Unit := do
  let c ← this
  if !(← Action.get).2.hasMirror c.mirror then Action.fail (.system .missing)
  else
    let info := c.syncInfo names
    if limits.parallelThreshold < c.file.content.size then uploadMirror b limits info
    else putMirror b info

def deleteObject (b : Backend σ τ) : Step σ Unit := do
  let c ← this
  let attempt : Step σ Unit := world (World.request b (.delete c.object))
  attempt.mapFailure (.transferFailed .delete c.object)

/-- Closes the mirror and brings the object up to date, if it may have changed. The channel is
closed and its mirror file removed in any case; closing again does nothing. -/
def close (b : Backend σ τ) (limits : Limits) (names : ContentType.NameTypes) : Step σ Unit := do
  let c ← this
  if c.closed then Action.pure ()
  else
    change fun c => { c with closed := true }
    let finish : Step σ Unit :=
      if c.options.has .deleteOnClose then deleteObject b
      else if c.options.isReadOnly then Action.pure ()
      else sync b limits names
    finish.ensuring (world (World.removeMirror c.mirror))

end Mirrored
end ObjectChannel
