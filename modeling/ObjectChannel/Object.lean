/-
What an object store keeps and answers: object names, the information that goes with an object,
and the replies to the requests that channels make.
-/
import ObjectChannel.Bytes
import ObjectChannel.Table
import ObjectChannel.Value

namespace ObjectChannel

/-- A remote object, named by its container and its key there. -/
structure ObjectId where
  bucket : String
  key : String
  deriving DecidableEq, Inhabited

namespace ObjectId

/-- The name as messages show it. -/
def uri (o : ObjectId) : String := "s3://" ++ o.bucket ++ "/" ++ o.key

/-- The name under which a store files the object. -/
def path (o : ObjectId) : String := o.bucket ++ "/" ++ o.key

/-- The last component of the key, as a file name. -/
def fileName (o : ObjectId) : String :=
  .ofList (o.key.toList.reverse.takeWhile (· != '/')).reverse

end ObjectId

/-- Text entries that a caller attaches to an object. -/
abbrev Metadata := Table String

/-- What a writer says about the object it creates. -/
structure ObjectInfo where
  contentType : Option String := none
  metadata : Metadata := Table.empty
  storageClass : Option String := none
  deriving Inhabited

/-- An object in a store. -/
structure StoredObject where
  data : Bytes
  contentType : Option String := none
  metadata : Metadata := Table.empty
  deriving Inhabited

/-- A part of a multipart upload, with the tag that the store gave it. -/
structure CompletedPart where
  number : Int
  tag : String
  deriving DecidableEq, Inhabited

/-- A multipart upload that has been begun. -/
structure MultipartUpload where
  uploadId : String
  object : ObjectId
  deriving Inhabited

/-- The reply to a probe. -/
structure ObjectHead where
  found : Bool
  size : Option Int := none
  tag : Value := .null
  contentType : Value := .null
  metadata : List (String × Value) := []
  deriving Inhabited

/-- The reply to storing a whole object. -/
structure PutResult where
  tag : Value
  version : Value := .null
  deriving Inhabited

end ObjectChannel
