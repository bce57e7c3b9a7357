/-
The requests that an S3 service understands, and its replies.
-/
import ObjectChannel.Bytes
import ObjectChannel.Object

namespace ObjectChannel.S3

/-- What a request that creates an object may say about it. What is not said is not sent. -/
structure WriteParams where
  contentType : Option String := none
  metadata : Option Metadata := none
  storageClass : Option String := none
  encryption : Option String := none
  encryptionKey : Option String := none
  deriving Inhabited

def WriteParams.isEmpty (p : WriteParams) : Bool :=
  p.contentType.isNone && p.metadata.isNone && p.storageClass.isNone && p.encryption.isNone &&
    p.encryptionKey.isNone

inductive Request where
  | putObject (object : ObjectId) (body : Bytes) (length : Int) (params : WriteParams)
  | getObject (object : ObjectId) (range : Option String)
  | headObject (object : ObjectId)
  | deleteObject (object : ObjectId)
  | createUpload (object : ObjectId) (params : WriteParams)
  | uploadPart (object : ObjectId) (uploadId : String) (number : Int) (body : Bytes) (length : Int)
  | completeUpload (object : ObjectId) (uploadId : String) (parts : List CompletedPart)
  | abortUpload (object : ObjectId) (uploadId : String)
  /-- A file sent by the transfer manager, with so many parts at a time. -/
  | uploadFile (object : ObjectId) (content : Bytes) (params : WriteParams) (workers : Int)
  deriving Inhabited

/-- The sorts of request. -/
inductive Method where
  | putObject
  | getObject
  | headObject
  | deleteObject
  | createUpload
  | uploadPart
  | completeUpload
  | abortUpload
  | uploadFile
  deriving DecidableEq, Inhabited

def Method.name : Method → String
  | .putObject => "put_object"
  | .getObject => "get_object"
  | .headObject => "head_object"
  | .deleteObject => "delete_object"
  | .createUpload => "create_multipart_upload"
  | .uploadPart => "upload_part"
  | .completeUpload => "complete_multipart_upload"
  | .abortUpload => "abort_multipart_upload"
  | .uploadFile => "upload_file"

def Method.all : List Method :=
  [.putObject, .getObject, .headObject, .deleteObject, .createUpload, .uploadPart, .completeUpload,
    .abortUpload, .uploadFile]

def Method.ofName? (s : String) : Option Method := Method.all.find? (·.name = s)

def Request.method : Request → Method
  | .putObject .. => .putObject
  | .getObject .. => .getObject
  | .headObject .. => .headObject
  | .deleteObject .. => .deleteObject
  | .createUpload .. => .createUpload
  | .uploadPart .. => .uploadPart
  | .completeUpload .. => .completeUpload
  | .abortUpload .. => .abortUpload
  | .uploadFile .. => .uploadFile

/-- A reply: its fields, and the body where there is one. `τ` is an open stream. -/
structure Reply (τ : Type) where
  fields : Value := .object []
  body : Option τ := none

/-- How a connection to a service is set up. -/
structure Connection where
  endpoint : Option String
  region : Option String
  accessKey : Option String
  secretKey : Option String
  useTls : Bool
  style : String
  deriving DecidableEq, Inhabited

/-! ## Ranges as text -/

/-- The range from the first position up to the second, written with the last position included. -/
def rangeText (start stop : Int) : String :=
  "bytes=" ++ toString start ++ "-" ++ toString (stop - 1)

/-- The number that a run of ASCII digits, at least one, denotes. -/
def natural? (s : List Char) : Option Nat :=
  if s.isEmpty || s.any (fun c => !c.isDigit) then none
  else some (s.foldl (fun n c => 10 * n + (c.toNat - '0'.toNat)) 0)

/-- The first and the last position of a written range. -/
def readRange? (s : String) : Option (Nat × Nat) :=
  let text := s.toList
  if "bytes=".toList.isPrefixOf text then do
    let rest := text.drop "bytes=".toList.length
    let first ← natural? (rest.takeWhile (· != '-'))
    match rest.dropWhile (· != '-') with
    | '-' :: last => return (first, ← natural? last)
    | _ => none
  else none

end ObjectChannel.S3
