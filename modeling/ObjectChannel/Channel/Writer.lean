/-
A write-only channel that produces one object when it is closed.

Bytes are held back until enough are pending for a part of a multipart upload, which is begun with
the first part. An object that never gets that large is stored with a single request on closing.
A failing part, or one too many, aborts the upload and leaves the writer closed, so that the object
is either absent or complete.

A writer's actions run on the writer together with the world.
-/
import ObjectChannel.Limits
import ObjectChannel.Channel.Action
import ObjectChannel.Channel.Pending

namespace ObjectChannel

structure Writer where
  object : ObjectId
  info : ObjectInfo
  closed : Bool := false
  /-- Accepted bytes that have not been sent. -/
  pending : Pending := .empty
  /-- The multipart upload in progress. -/
  uploadId : Option String := none
  /-- The parts that the store has taken, in order. -/
  parts : List CompletedPart := []
  /-- A position that a user noted. The writer itself has none and goes by none. -/
  notedPosition : Option Int := none
  deriving Inhabited

namespace Writer

open ChannelAction

variable {σ τ : Type}

abbrev Step (σ α : Type) := ChannelAction Writer σ α

/-- Asks the store to forget the upload in progress, if there is one. That this fails is noted in
the log and changes nothing else; the writer has no upload afterwards in any case. -/
def abortUpload (b : Backend σ τ) : Step σ Unit := do
  let w ← this
  match w.uploadId with
  | none => Action.pure ()
  | some id =>
    world (World.log (.abortingUpload id w.object))
    world (World.count fun m => { m with aborts := m.aborts + 1 })
    let attempt : Step σ Unit := world (World.request b (.abortUpload w.object id))
    (attempt.recover fun e => world (World.log (.abortFailed id w.object e))).ensuring
      (change fun w => { w with uploadId := none, parts := [] })

/-- Begins a multipart upload. A failure closes the writer. -/
def beginUpload (b : Backend σ τ) : Step σ Unit := do
  let w ← this
  world (World.log (.beginningUpload w.object))
  let attempt : Step σ MultipartUpload := world (World.request b (.beginUpload w.object w.info))
  let upload ← attempt.recover fun e => do
    change fun w => { w with closed := true }
    Action.fail (.transferFailed .beginUpload w.object e)
  change fun w => { w with uploadId := some upload.uploadId, parts := [] }

/-- Sends a block as the next part, of the upload with the given name. A failure closes the writer
and aborts the upload. -/
def sendPart (b : Backend σ τ) (id : String) (block : Bytes) (isLast : Bool) : Step σ Unit := do
  let w ← this
  let number := w.parts.length + 1
  world (World.log (.uploadingPart number block.size w.object))
  let attempt : Step σ CompletedPart :=
    world (World.request b (.uploadPart w.object id number block block.size isLast))
  let part ← attempt.recover fun e => do
    change fun w => { w with closed := true }
    abortUpload b
    Action.fail (.transferFailed (.uploadPart number) w.object e)
  change fun w => { w with parts := w.parts ++ [part] }
  world (World.count fun m =>
    { m with partsUploaded := m.partsUploaded + 1, multipartBytes := m.multipartBytes + block.size })
  world (World.log (.uploadedPart part.number block.size w.object part.tag))

/-- Sends a block as the next part, of an upload that is begun if there is none. -/
def uploadPart (b : Backend σ τ) (block : Bytes) (isLast : Bool) : Step σ Unit := do
  if (← this).uploadId.isNone then beginUpload b
  match (← this).uploadId with
  | some id => sendPart b id block isLast
  | none => Action.pure ()

/-- Asks the store to assemble the parts. A failure aborts the upload. -/
def completeUpload (b : Backend σ τ) (id : String) : Step σ Unit := do
  let w ← this
  world (World.log (.completingUpload w.object w.parts.length))
  let attempt : Step σ Unit := world (World.request b (.completeUpload w.object id w.parts))
  attempt.recover fun e => do
    abortUpload b
    Action.fail (.transferFailed .completeUpload w.object e)
  world (World.log (.completedUpload w.object w.parts.length))
  change fun w => { w with uploadId := none, parts := [] }

/-- Stores the pending bytes as the whole object. -/
def putObject (b : Backend σ τ) : Step σ Unit := do
  let w ← this
  let body := w.pending.toBytes
  let attempt : Step σ PutResult := world (World.request b (.put w.object body body.size w.info))
  let _ ← attempt.mapFailure (.transferFailed .put w.object)
  world (World.count fun m => { m with putBytes := m.putBytes + body.size })

/-- Appends bytes to the object, and returns how many. Once enough bytes are pending they are sent
as a part; at the part limit nothing more is taken and the upload is aborted. -/
def write (b : Backend σ τ) (limits : Limits) (data : Option Bytes) : Step σ Nat := do
  let w ← this
  if w.closed then Action.fail (.ofChannel (.closed w.object))
  else
    match data with
    | none => Action.fail .notBytes
    | some data =>
      if data.isEmpty then return 0
      else if w.uploadId.isSome && limits.maxParts ≤ w.parts.length then
        change fun w => { w with closed := true, pending := .empty }
        abortUpload b
        Action.fail (.ofChannel (.partLimit limits.maxParts w.object))
      else if limits.minPartSize ≤ w.pending.size + data.size then
        change fun w => { w with pending := .empty }
        uploadPart b (w.pending.append data).toBytes false
        return data.size
      else
        change fun w => { w with pending := w.pending.append data }
        return data.size

/-- Publishes the object; closing again does nothing. At the part limit nothing is pending, so the
upload is complete as it stands. The writer is closed afterwards in any case. -/
def close (b : Backend σ τ) (limits : Limits) : Step σ Unit := do
  let w ← this
  if w.closed then Action.pure ()
  else
    let publish : Step σ Unit :=
      match w.uploadId with
      | none => putObject b
      | some id => do
        if w.parts.length < limits.maxParts then uploadPart b w.pending.toBytes true
        completeUpload b id
    publish.ensuring (change fun w => { w with pending := .empty, closed := true })

/-- Closes without publishing anything. -/
def discard (b : Backend σ τ) : Step σ Unit := do
  let w ← this
  if w.closed then Action.pure ()
  else
    change fun w => { w with closed := true, pending := .empty }
    abortUpload b

/-- Leaves the block that the writer was opened for: publishing it if the block ended well. -/
def leave (b : Backend σ τ) (limits : Limits) (failed : Bool) : Step σ Unit :=
  if failed then discard b else close b limits

end Writer
end ObjectChannel
