/-
What channels need of an object store: a handful of requests, each with its own sort of reply, and
streams that are read piece by piece.

A backend is given by the state `σ` of the store behind it and the state `τ` of an open stream.
Nothing else is assumed of it: a request may fail at any time, and a read may return any bytes.
-/
import ObjectChannel.Action
import ObjectChannel.Log.Event

namespace ObjectChannel

inductive Request where
  | put (object : ObjectId) (body : Bytes) (length : Nat) (info : ObjectInfo)
  /-- The whole object, or the bytes from the first position up to the second. -/
  | get (object : ObjectId) (range : Option (Nat × Nat))
  | head (object : ObjectId)
  | delete (object : ObjectId)
  | beginUpload (object : ObjectId) (info : ObjectInfo)
  | uploadPart (object : ObjectId) (uploadId : String) (number : Nat) (body : Bytes)
      (length : Nat) (isLast : Bool)
  | completeUpload (object : ObjectId) (uploadId : String) (parts : List CompletedPart)
  | abortUpload (object : ObjectId) (uploadId : String)
  /-- A local file, uploaded by several workers at a time. -/
  | uploadFile (object : ObjectId) (path : String) (content : Bytes) (workers : Int)
      (info : ObjectInfo)
  deriving Inhabited

/-- What a request is answered with; `τ` is an open stream. -/
@[reducible] def Request.Reply (τ : Type) : Request → Type
  | .put .. => PutResult
  | .get .. => τ
  | .head .. => ObjectHead
  | .delete .. => Unit
  | .beginUpload .. => MultipartUpload
  | .uploadPart .. => CompletedPart
  | .completeUpload .. => Unit
  | .abortUpload .. => Unit
  | .uploadFile .. => Unit

structure Backend (σ τ : Type) where
  /-- The name that the log shows. -/
  name : String
  call : (r : Request) → Action σ (r.Reply τ)
  /-- The next bytes of a stream, about `n` of them, or all where no number is given. A failing
  read leaves the stream as it was. -/
  read : τ → (n : Option Nat) → Except Failure (Bytes × τ)
  close : τ → Action σ Unit
  /-- What the backend notes in the log before it makes a request. -/
  remark : Request → Option Log.Event := fun _ => none

end ObjectChannel
