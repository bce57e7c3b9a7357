/-
What a store holds, and what it was asked for, as data by name. How bytes are shown is up to whoever
lists them.
-/
import ObjectChannel.Store.Memory

namespace ObjectChannel

/-- The entries as named texts. -/
def Metadata.listing (m : Metadata) : Value := .object (m.entries.map fun (k, v) => (k, .text v))

namespace Store

variable (written : Bytes → Value)

def objectListing (x : StoredObject) : Value :=
  .object [("data", written x.data), ("content_type", .ofText? x.contentType),
    ("metadata", x.metadata.listing)]

def Upload.listing (u : Upload) : Value :=
  .object [("object", .text u.object), ("content_type", .ofText? u.contentType),
    ("metadata", u.metadata.listing),
    ("parts", .object (u.parts.map fun (n, b) => (toString n, written b))),
    ("completed", .bool u.completed), ("aborted", .bool u.aborted)]

def Contents.listing (c : Contents) : List (String × Value) :=
  [("objects", .object (c.objects.entries.map fun (k, x) => (k, objectListing written x))),
    ("uploads", .object (c.uploads.entries.map fun (k, u) => (k, u.listing written)))]

/-- The parameters of a request, by the names that a memory store notes them under. -/
def parameters : Request → List (String × Value)
  | .put o body len info => target o ++ [("body", written body), ("content_length", .int len)] ++
      described info ++ [("storage_class", .ofText? info.storageClass)]
  | .get o range => target o ++ [("byte_range", match range with
      | some (i, j) => .list [.int i, .int j]
      | none => .null)]
  | .head o | .delete o => target o
  | .beginUpload o info =>
    target o ++ described info ++ [("storage_class", .ofText? info.storageClass)]
  | .uploadPart o id n body len last => target o ++ [("upload_id", .text id),
      ("part_number", .int n), ("body", written body), ("content_length", .int len),
      ("is_last", .bool last)]
  | .completeUpload o id ps => target o ++ [("upload_id", .text id),
      ("parts", .list (ps.map fun p => .list [.int p.number, .text p.tag]))]
  | .abortUpload o id => target o ++ [("upload_id", .text id)]
  | .uploadFile o _ content workers info => target o ++ [("body", written content),
      ("workers", .int workers)] ++ described info
where
  target (o : ObjectId) : List (String × Value) :=
    [("bucket", .text o.bucket), ("object_key", .text o.key)]
  described (info : ObjectInfo) : List (String × Value) :=
    [("content_type", .ofText? info.contentType), ("metadata", info.metadata.listing)]

/-- A note of a memory store: the method's name and the parameters. -/
def MemoryCall.listing : MemoryCall → Value
  | .closeStream n => .list [.text "close_stream", .object [("delivered", .int n)]]
  | .request r => .list [.text (methodOf r).name, .object (parameters written r)]

end Store
end ObjectChannel
