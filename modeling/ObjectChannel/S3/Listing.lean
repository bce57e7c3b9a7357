/-
What an S3 service was asked for, and what its client answers, as data by name. A parameter that a
request does not say is left out.
-/
import ObjectChannel.S3.Service
import ObjectChannel.Store.Listing

namespace ObjectChannel.S3

variable (written : Bytes → Value)

def WriteParams.listing (p : WriteParams) : List (String × Value) :=
  said "ContentType" p.contentType ++
    (match p.metadata with | some m => [("Metadata", m.listing)] | none => []) ++
    said "StorageClass" p.storageClass ++ said "ServerSideEncryption" p.encryption ++
    said "SSEKMSKeyId" p.encryptionKey
where
  said (name : String) : Option String → List (String × Value)
    | some s => [(name, .text s)]
    | none => []

/-- The parameters of a request, by the names that the service knows them by. -/
def Request.parameters : Request → List (String × Value)
  | .putObject o body len p =>
    target o ++ [("Body", written body), ("ContentLength", .int len)] ++ p.listing
  | .getObject o range => target o ++ (match range with
      | some s => [("Range", .text s)]
      | none => [])
  | .headObject o | .deleteObject o => target o
  | .createUpload o p => target o ++ p.listing
  | .uploadPart o id n body len => target o ++ [("UploadId", .text id), ("PartNumber", .int n),
      ("Body", written body), ("ContentLength", .int len)]
  | .completeUpload o id ps => target o ++ [("UploadId", .text id),
      ("MultipartUpload", .object [("Parts", .list (ps.map fun p =>
        .object [("ETag", .text p.tag), ("PartNumber", .int p.number)]))])]
  | .abortUpload o id => target o ++ [("UploadId", .text id)]
  | .uploadFile o content p workers => target o ++ [("Body", written content),
      ("ExtraArgs", if p.isEmpty then .null else .object p.listing),
      ("max_concurrency", .int workers), ("use_threads", .bool true)]
where
  target (o : ObjectId) : List (String × Value) := [("Bucket", .text o.bucket), ("Key", .text o.key)]

/-- A note of the service: the method's name and the parameters. -/
def Call.listing : Call → Value
  | .closeStream n => .list [.text "close_stream", .object [("delivered", .int n)]]
  | .request r => .list [.text r.method.name, .object (r.parameters written)]

def Connection.listing (c : Connection) : Value :=
  .list [.text "s3", .object [("endpoint_url", .ofText? c.endpoint),
    ("region_name", .ofText? c.region), ("aws_access_key_id", .ofText? c.accessKey),
    ("aws_secret_access_key", .ofText? c.secretKey), ("use_ssl", .bool c.useTls),
    ("config", .object [("s3", .object [("addressing_style", .text c.style)])])]]

end ObjectChannel.S3

namespace ObjectChannel

def PutResult.listing (r : PutResult) : Value :=
  .object [("etag", r.tag), ("version_id", r.version)]

def ObjectHead.listing (h : ObjectHead) : Value :=
  .object [("exists", .bool h.found), ("size_bytes", h.size.elim .null .int), ("etag", h.tag),
    ("content_type", h.contentType), ("metadata", .object h.metadata)]

def MultipartUpload.listing (u : MultipartUpload) : Value :=
  .object [("upload_id", .text u.uploadId), ("bucket", .text u.object.bucket),
    ("object_key", .text u.object.key)]

def CompletedPart.listing (p : CompletedPart) : Value :=
  .object [("part_number", .int p.number), ("etag", .text p.tag)]

end ObjectChannel
