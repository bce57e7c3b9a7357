/-
A store in memory that is a backend itself. Every call is noted, and is noted first, whatever
becomes of it; a call that a plan makes fail has no other effect.
-/
import ObjectChannel.Backend
import ObjectChannel.Store.Contents
import ObjectChannel.Store.Plan

namespace ObjectChannel.Store

/-- The sorts of request. -/
inductive Method where
  | put
  | get
  | head
  | delete
  | beginUpload
  | uploadPart
  | completeUpload
  | abortUpload
  | uploadFile
  deriving DecidableEq, Inhabited

/-- The method's name in a store's own log. -/
def Method.name : Method → String
  | .put => "put_object"
  | .get => "get_object"
  | .head => "head_object"
  | .delete => "delete_object"
  | .beginUpload => "init_multipart_upload"
  | .uploadPart => "upload_part"
  | .completeUpload => "complete_multipart_upload"
  | .abortUpload => "abort_multipart_upload"
  | .uploadFile => "parallel_upload"

def Method.all : List Method :=
  [.put, .get, .head, .delete, .beginUpload, .uploadPart, .completeUpload, .abortUpload, .uploadFile]

def Method.ofName? (s : String) : Option Method := Method.all.find? (·.name = s)

def methodOf : Request → Method
  | .put .. => .put
  | .get .. => .get
  | .head .. => .head
  | .delete .. => .delete
  | .beginUpload .. => .beginUpload
  | .uploadPart .. => .uploadPart
  | .completeUpload .. => .completeUpload
  | .abortUpload .. => .abortUpload
  | .uploadFile .. => .uploadFile

/-- What a memory store notes. -/
inductive MemoryCall where
  | request (r : Request)
  | closeStream (delivered : Nat)
  deriving Inhabited

structure MemoryStore where
  contents : Contents := {}
  calls : Array MemoryCall := #[]
  /-- How many streams were opened. -/
  streams : Nat := 0
  deriving Inhabited

namespace MemoryStore

/-- How many requests were made. -/
def requestCount (s : MemoryStore) : Nat :=
  s.calls.foldl (fun n c => match c with | .request _ => n + 1 | .closeStream _ => n) 0

/-- How many requests of a sort were made. -/
def methodCount (s : MemoryStore) (m : Method) : Nat :=
  s.calls.foldl
    (fun n c => match c with | .request r => if methodOf r = m then n + 1 else n | _ => n) 0

def note (s : MemoryStore) (c : MemoryCall) : MemoryStore := { s with calls := s.calls.push c }

def change (f : Contents → Contents) : Action MemoryStore Unit :=
  .modify fun s => { s with contents := f s.contents }

/-- The part of the data that a range covers, as far as there is any. -/
def clip (data : Bytes) : Option (Nat × Nat) → Bytes
  | some (i, j) => data.slice i j
  | none => data

/-- What the store does where nothing goes wrong. -/
def serve (streams : StreamPlan) : (r : Request) → Action MemoryStore (r.Reply Stream)
  | .put o body _ info => do
    change (·.put o { data := body, contentType := info.contentType, metadata := info.metadata })
    return { tag := .text s!"etag-{(← Action.get).requestCount}" }
  | .get o range => do
    let s ← Action.get
    match s.contents.object? o with
    | none => Action.fail (.storage "NoSuchKey" none)
    | some x =>
      Action.modify fun s => { s with streams := s.streams + 1 }
      return { data := clip x.data range, habit := streams s.streams }
  | .head o => do
    match (← Action.get).contents.object? o with
    | none => return { found := false }
    | some x => return {
        found := true
        size := some x.data.size
        tag := .text "etag"
        contentType := .ofText? x.contentType
        metadata := x.metadata.entries.map fun (k, v) => (k, .text v) }
  | .delete o => change (·.delete o)
  | .beginUpload o info => do
    let id := (← Action.get).contents.nextUploadId
    change (·.beginUpload o info.contentType info.metadata)
    return { uploadId := id, object := o }
  | .uploadPart _ id n body _ _ => do
    change (·.addPart id n body)
    return { number := n, tag := s!"etag-{id}-{n}" }
  | .completeUpload o id parts => change (·.completeUpload id o (parts.map (·.number)))
  | .abortUpload _ id => change (·.abortUpload id)
  | .uploadFile o _ content _ info =>
    change (·.put o
      { data := content, contentType := info.contentType, metadata := info.metadata })

/-- A request: noted, then either served or brought down by the plan. -/
def call (plan : Plan Method Unit) (streams : StreamPlan) (r : Request) :
    Action MemoryStore (r.Reply Stream) := do
  Action.modify (·.note (.request r))
  match plan (methodOf r) ((← Action.get).methodCount (methodOf r)) with
  | some (.raise e) => Action.fail e
  | _ => serve streams r

def close (t : Stream) : Action MemoryStore Unit := do
  Action.modify (·.note (.closeStream t.delivered))
  Action.ofExcept t.close

end MemoryStore

/-- The backend of a store in memory. -/
def memoryBackend (plan : Plan Method Unit) (streams : StreamPlan) : Backend MemoryStore Stream where
  name := "MemoryBackend"
  call := MemoryStore.call plan streams
  read := Stream.read
  close := MemoryStore.close

end ObjectChannel.Store
