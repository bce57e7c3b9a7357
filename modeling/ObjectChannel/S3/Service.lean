/-
A store that speaks the S3 dialect: replies are fields by name, ranges are written with both ends
included, and refusals carry a code.

Every request is noted, and is noted first, whatever becomes of it. A plan may make a request fail
or answer it with anything at all; then it has no other effect.
-/
import ObjectChannel.Action
import ObjectChannel.S3.Request
import ObjectChannel.Store.Contents
import ObjectChannel.Store.Plan

namespace ObjectChannel.S3

open Store (Contents Plan Stream StreamPlan)

/-- A reply that a plan gives: its fields, and a body where it has one. -/
structure CannedReply where
  fields : Value
  body : Option Bytes := none
  deriving Inhabited

inductive Call where
  | request (r : Request)
  | closeStream (delivered : Nat)
  deriving Inhabited

structure Service where
  contents : Contents := {}
  calls : Array Call := #[]
  /-- How many streams were opened. -/
  streams : Nat := 0
  connections : Array Connection := #[]
  deriving Inhabited

namespace Service

def requestCount (s : Service) : Nat :=
  s.calls.foldl (fun n c => match c with | .request _ => n + 1 | .closeStream _ => n) 0

def methodCount (s : Service) (m : Method) : Nat :=
  s.calls.foldl (fun n c => match c with | .request r => if r.method = m then n + 1 else n | _ => n) 0

def note (s : Service) (c : Call) : Service := { s with calls := s.calls.push c }

def change (f : Contents → Contents) : Action Service Unit :=
  .modify fun s => { s with contents := f s.contents }

/-- The reply that refuses a request with a code. -/
def refusal (code : String) : Failure :=
  .store ("store error " ++ code) (some (.object [("Error", .object [("Code", .text code)])]))

def refuse {α : Type} (code : String) : Action Service α := .fail (refusal code)

/-- The object that a request with these parameters makes of some bytes. -/
def stored (data : Bytes) (p : WriteParams) : StoredObject :=
  { data, contentType := p.contentType, metadata := p.metadata.getD Table.empty }

/-- The bytes that a written range covers. Ranges that cannot be read, and those that begin at or
behind the end, are refused. -/
def clip (data : Bytes) : Option String → Except Failure Bytes
  | none => .ok data
  | some text =>
    match readRange? text with
    | none => .error (refusal "InvalidArgument")
    | some (first, last) =>
      if data.size ≤ first then .error (refusal "InvalidRange")
      else .ok (data.slice first (last + 1))

/-- The reply to a probe. -/
def headReply (x : StoredObject) : Value :=
  .object [("ContentLength", .int x.data.size), ("ETag", .text "\"etag\""),
    ("ContentType", .ofText? x.contentType),
    ("Metadata", .object (x.metadata.entries.map fun (k, v) => (k, .text v)))]

def reply (fields : List (String × Value)) : Reply Stream := { fields := .object fields }

/-- What the service does where nothing goes wrong. -/
def serve (streams : StreamPlan) : Request → Action Service (Reply Stream)
  | .putObject o body _ p => do
    change (·.put o (stored body p))
    let n := (← Action.get).requestCount
    return reply [("ETag", .text s!"\"etag-{n}\""), ("VersionId", .text s!"v{n}")]
  | .getObject o range => do
    let s ← Action.get
    match s.contents.object? o with
    | none => refuse "NoSuchKey"
    | some x =>
      let data ← Action.ofExcept (clip x.data range)
      Action.modify fun s => { s with streams := s.streams + 1 }
      return { body := some { data, habit := streams s.streams } }
  | .headObject o => do
    match (← Action.get).contents.object? o with
    | none => refuse "404"
    | some x => return { fields := headReply x }
  | .deleteObject o => do
    change (·.delete o)
    return reply []
  | .createUpload o p => do
    let id := (← Action.get).contents.nextUploadId
    change (·.beginUpload o p.contentType (p.metadata.getD Table.empty))
    return reply [("UploadId", .text id)]
  | .uploadPart _ id n body _ => do
    if (← Action.get).contents.uploads.contains id then
      change (·.addPart id n body)
      return reply [("ETag", .text s!"etag-{id}-{n}")]
    else refuse "NoSuchUpload"
  | .completeUpload o id parts => do
    match (← Action.get).contents.uploads.get? id with
    | none => refuse "NoSuchUpload"
    | some u =>
      if parts.all fun p => (u.part? p.number).isSome then
        change (·.completeUpload id o (parts.map (·.number)))
        return reply []
      else refuse "InvalidPart"
  | .abortUpload _ id => do
    if (← Action.get).contents.uploads.contains id then
      change (·.abortUpload id)
      return reply []
    else refuse "NoSuchUpload"
  | .uploadFile o content p _ => do
    change (·.put o (stored content p))
    return { fields := .null }

/-- A request: noted, then either served or dealt with by the plan. -/
def call (plan : Plan Method CannedReply) (streams : StreamPlan) (r : Request) :
    Action Service (Reply Stream) := do
  Action.modify (·.note (.request r))
  match plan r.method ((← Action.get).methodCount r.method) with
  | some (.raise e) => Action.fail e
  | some (.answer canned) =>
    return { fields := canned.fields, body := canned.body.map fun data => { data } }
  | none => serve streams r

def connect (c : Connection) : Action Service Unit :=
  .modify fun s => { s with connections := s.connections.push c }

def close (t : Stream) : Action Service Unit := do
  Action.modify (·.note (.closeStream t.delivered))
  Action.ofExcept t.close

end Service
end ObjectChannel.S3
