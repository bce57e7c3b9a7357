/-
The backend that makes S3 requests. It turns half-open ranges into written ones, missing objects
and empty ranges into replies, and every other ordinary failure into a storage failure that names
what was being done.

Replies come from outside and may have any shape, so their fields are looked at with care: a field
that is absent is one thing, a reply without fields another.
-/
import ObjectChannel.Backend
import ObjectChannel.S3.Numeral
import ObjectChannel.S3.Service
import ObjectChannel.Settings.Basic

namespace ObjectChannel.S3

/-- A part of an upload, as a caller lists it. -/
structure ListedPart where
  number : Numeral
  tag : String
  deriving Inhabited

/-- What the client needs of the service: a way to make requests. -/
abbrev Dispatch (σ τ : Type) := (r : Request) → Action σ (Reply τ)

/-- A stream that the client hands out: one from the service, or one of its own without content. -/
inductive Body (τ : Type) where
  | empty
  | remote (t : τ)
  deriving Inhabited

namespace Client

variable {σ τ α : Type}

/-! ## Replies and refusals -/

/-- The code of a refusal, as text. A reply that is no object, or has no code, has none; one whose
error entry is not an object cannot be looked at, and a code of another kind has to be written first. -/
def errorCode (nesting : Nat) (e : Failure) : Except Failure (Option String) :=
  match e with
  | .store _ (some (.object fields)) =>
    match fields.lookup "Error" with
    | none => .ok none
    | some (.object error) =>
      match error.lookup "Code" with
      | none | some .null => .ok none
      | some code => some <$> code.shown nesting
    | some _ => .error .replyShape
  | _ => .ok none

/-- The codes that say that an object is not there. -/
def missingCodes : List String := ["404", "NoSuchKey", "NotFound"]

/-- A field of a reply, null where it is absent. -/
def field (r : Reply τ) (name : String) : Except Failure Value :=
  match r.fields with
  | .object fields => .ok ((fields.lookup name).getD .null)
  | _ => .error .replyShape

/-- The length that a field stands for; zero where none is given. -/
def lengthOf : Value → Except Failure Int
  | .null => .ok 0
  | v => (Numeral.ofValue v).value

/-- The name and the value in a pair; a text of two characters and the names of two fields are
pairs as well. -/
def pairOf : Value → Except Failure (String × Value)
  | .list [.text k, v] => .ok (k, v)
  | .list [_, _] => .error .replyMapping
  | .object [(k, _), (v, _)] => .ok (k, .text v)
  | .text s =>
    match s.toList with
    | [k, v] => .ok (k.toString, .text v.toString)
    | _ => .error .replyPair
  | .list _ | .object _ => .error .replyPair
  | _ => .error .replyMapping

/-- The entries that a field stands for, by name or in pairs; none where nothing is given. -/
def entries (v : Value) : Except Failure (List (String × Value)) :=
  match v with
  | .object fields => .ok fields
  | .list items => do return (Table.ofList (← items.mapM pairOf)).entries
  | .text "" => .ok []
  | .text _ => .error .replyPair
  | v => if v.isPresent then .error .replyMapping else .ok []

/-- The body of a reply. -/
def bodyOf (r : Reply τ) : Except Failure (Body τ) :=
  match r.body, r.fields with
  | some t, _ => .ok (.remote t)
  | none, .object _ => .error .replyField
  | none, _ => .error .replyKind

/-! ## What is said about an object -/

/-- The text, unless it is empty. -/
def given (s : Option String) : Option String := s.filter (· != "")

/-- What a request that creates an object says about it: what the caller gave, the storage class of
the settings where the caller gave none, and the encryption of the settings. -/
def writeParams (s : Settings) (info : ObjectInfo) : WriteParams :=
  { contentType := given info.contentType
    metadata := if info.metadata.isEmpty then none else some info.metadata
    storageClass := (given info.storageClass).or (given s.storageClass)
    encryption := if s.encrypts then some "aws:kms" else none
    encryptionKey := if s.encrypts then given s.encryptionKey else none }

/-! ## The operations -/

variable (nesting : Nat) (send : Dispatch σ τ) (settings : Settings)

/-- A request, with an ordinary failure reported as that of the given activity. -/
def sending (activity : String) (r : Request) : Action σ (Reply τ) :=
  (send r).mapFailure (.requestFailed activity)

def putObject (o : ObjectId) (body : Bytes) (length : Numeral) (info : ObjectInfo) :
    Action σ PutResult := do
  let attempt : Action σ (Reply τ) := do
    let n ← Action.ofExcept length.value
    send (.putObject o body n (writeParams settings info))
  let reply ← attempt.mapFailure (.requestFailed "put object")
  let tag ← Action.ofExcept (field reply "ETag")
  let version ← Action.ofExcept (field reply "VersionId")
  return { tag, version }

/-- The range from the first position up to the second, in writing. -/
def writtenRange (start stop : Int) : Except Failure String :=
  if Text.isTooLong start || Text.isTooLong (stop - 1) then .error .tooManyDigits
  else .ok (rangeText start stop)

/-- The reply to a request for a written range; none where the range lies behind the end of the
object. -/
def requestRange (o : ObjectId) (range : String) : Action σ (Option (Reply τ)) :=
  (some <$> send (.getObject o (some range))).recover fun e => do
    if (← Action.ofExcept (errorCode nesting e)) = some "InvalidRange" then return none
    else Action.fail (.requestFailed "get object" e)

/-- The stream over an object, or over the positions from the first up to the second. A range that
covers nothing is not asked for. -/
def getObject (o : ObjectId) (range : Option (Int × Int)) : Action σ (Body τ) := do
  match range with
  | none =>
    let reply ← sending send "get object" (.getObject o none)
    Action.ofExcept (bodyOf reply)
  | some (start, stop) =>
    if stop ≤ start then return .empty
    else
      match ← requestRange nesting send o (← Action.ofExcept (writtenRange start stop)) with
      | none => return .empty
      | some reply => Action.ofExcept (bodyOf reply)

/-- The reply to a probe; none where the object is not there. -/
def requestHead (o : ObjectId) : Action σ (Option (Reply τ)) :=
  (some <$> send (.headObject o)).recover fun e => do
    if (← Action.ofExcept (errorCode nesting e)).any missingCodes.contains then return none
    else Action.fail (.requestFailed "get object metadata" e)

def headObject (o : ObjectId) : Action σ ObjectHead := do
  match ← requestHead nesting send o with
  | none => return { found := false }
  | some reply =>
    return {
      found := true
      size := some (← Action.ofExcept (field reply "ContentLength" >>= lengthOf))
      tag := ← Action.ofExcept (field reply "ETag")
      contentType := ← Action.ofExcept (field reply "ContentType")
      metadata := ← Action.ofExcept (field reply "Metadata" >>= entries) }

def deleteObject (o : ObjectId) : Action σ Unit := do
  let _ ← sending send "delete object" (.deleteObject o)

def beginUpload (o : ObjectId) (info : ObjectInfo) : Action σ MultipartUpload := do
  let reply ← sending send "create multipart upload" (.createUpload o (writeParams settings info))
  let id ← Action.ofExcept (field reply "UploadId")
  if id.isPresent then return { uploadId := ← Action.ofExcept (id.shown nesting), object := o }
  else Action.fail (.storage "S3 response missing UploadId" none)

def uploadPart (o : ObjectId) (uploadId : String) (number : Numeral) (body : Bytes)
    (length : Numeral) : Action σ CompletedPart := do
  let attempt : Action σ (Int × Reply τ) := do
    let n ← Action.ofExcept number.value
    let size ← Action.ofExcept length.value
    return (n, ← send (.uploadPart o uploadId n body size))
  let (n, reply) ← attempt.recover fun e => do
    let shown ← Action.ofExcept (number.given.shown nesting)
    Action.fail (.requestFailed ("upload part " ++ shown) e)
  let tag ← Action.ofExcept (field reply "ETag")
  if tag.isPresent then return { number := n, tag := ← Action.ofExcept (tag.shown nesting) }
  else Action.fail (.storage "S3 response missing ETag" none)

/-- The parts in the order of their numbers; parts of one number keep their order. -/
def sortParts (parts : List ListedPart) : Except Failure (List ListedPart) :=
  if parts.all fun p => parts.all fun q => (p.number.le? q.number).isSome then
    .ok (parts.mergeSort fun p q => (p.number.le? q.number).getD true)
  else .error .mixedOrder

def completeUpload (o : ObjectId) (uploadId : String) (parts : List ListedPart) :
    Action σ Unit := do
  let sorted ← Action.ofExcept (sortParts parts)
  let numbered ← Action.ofExcept
    (sorted.mapM fun p => return { number := ← p.number.value, tag := p.tag })
  let _ ← sending send "complete multipart upload" (.completeUpload o uploadId numbered)

def abortUpload (o : ObjectId) (uploadId : String) : Action σ Unit := do
  let _ ← sending send "abort multipart upload" (.abortUpload o uploadId)

/-- How many workers a transfer has: at least one. -/
def workersOf (workers : Numeral) : Except Failure Int := do
  let n ← workers.value
  if 0 < n then .ok n else .error .noWorkers

/-- Sends a file with several workers. A transfer that is called off is not reported as a failure
of the storage. -/
def uploadFile (o : ObjectId) (content : Bytes) (workers : Numeral) (info : ObjectInfo) :
    Action σ Unit := do
  let n ← Action.ofExcept (workersOf workers)
  let _ ← (send (.uploadFile o content (writeParams settings info) n)).mapFailure fun e =>
    match e with
    | .cancelled => .cancelled
    | e => .requestFailed "upload file" e

end Client

/-- How the settings ask for the service to be reached. -/
def connectionOf (s : Settings) : Connection :=
  { endpoint := s.endpoint
    region := s.region
    accessKey := s.accessKey
    secretKey := s.secretKey
    useTls := s.useTls
    style := s.style.name }

/-- The requests of channels, as the client serves them. -/
def answer {σ τ : Type} (nesting : Nat) (send : Dispatch σ τ) (settings : Settings) :
    (r : ObjectChannel.Request) → Action σ (r.Reply (Body τ))
  | .put o body length info => Client.putObject send settings o body (.int length) info
  | .get o range => Client.getObject nesting send o (range.map fun (i, j) => ((i : Int), (j : Int)))
  | .head o => Client.headObject nesting send o
  | .delete o => Client.deleteObject send o
  | .beginUpload o info => Client.beginUpload nesting send settings o info
  | .uploadPart o id n body length _ =>
    Client.uploadPart nesting send o id (.int n) body (.int length)
  | .completeUpload o id parts =>
    Client.completeUpload send o id (parts.map fun p => { number := .int p.number, tag := p.tag })
  | .abortUpload o id => Client.abortUpload send o id
  | .uploadFile o _ content workers info =>
    Client.uploadFile send settings o content (.int workers) info

/-- Reads from a stream that the client handed out. -/
def Body.read (t : Body Store.Stream) (n : Option Nat) :
    Except Failure (Bytes × Body Store.Stream) :=
  match t with
  | .empty => .ok (.empty, .empty)
  | .remote s => (s.read n).map fun (data, s) => (data, .remote s)

def Body.close : Body Store.Stream → Action Service Unit
  | .empty => Action.pure ()
  | .remote s => Service.close s

/-- The backend of an S3 service, reached with the given settings. What replies hold is followed through
so many levels of `nesting`. -/
def backend (settings : Settings) (plan : Store.Plan Method CannedReply)
    (streams : Store.StreamPlan) (nesting : Nat) : Backend Service (Body Store.Stream) where
  name := "S3StorageClient"
  call := answer nesting (Service.call plan streams) settings
  read := Body.read
  close := Body.close
  remark := fun
    | .uploadFile o path _ workers _ => if 0 < workers then some (.uploadingFile path o workers) else none
    | _ => none

end ObjectChannel.S3
