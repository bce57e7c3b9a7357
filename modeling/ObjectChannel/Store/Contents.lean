/-
What a store keeps: objects by name, and the multipart uploads that were ever begun. An upload's
parts are kept by number; they become an object only when the upload is completed.
-/
import ObjectChannel.Object

namespace ObjectChannel.Store

structure Upload where
  /-- The name of the object that is to be. -/
  object : String
  contentType : Option String := none
  metadata : Metadata := Table.empty
  /-- The parts by number, each at most once. -/
  parts : List (Int × Bytes) := []
  completed : Bool := false
  aborted : Bool := false
  deriving Inhabited

namespace Upload

def part? (u : Upload) (n : Int) : Option Bytes := u.parts.lookup n

/-- The upload with a part set; a part of the same number is replaced. -/
def setPart (u : Upload) (n : Int) (data : Bytes) : Upload :=
  { u with parts := u.parts.filter (·.1 != n) ++ [(n, data)] }

/-- The parts with the given numbers, in the order of the numbers. -/
def assemble (u : Upload) (numbers : List Int) : Bytes :=
  Bytes.concat (numbers.map fun n => (u.part? n).getD .empty)

end Upload

structure Contents where
  objects : Table StoredObject := Table.empty
  uploads : Table Upload := Table.empty
  deriving Inhabited

namespace Contents

def object? (c : Contents) (o : ObjectId) : Option StoredObject := c.objects.get? o.path

def put (c : Contents) (o : ObjectId) (x : StoredObject) : Contents :=
  { c with objects := c.objects.insert o.path x }

def delete (c : Contents) (o : ObjectId) : Contents :=
  { c with objects := c.objects.erase o.path }

/-- The name that the next upload gets. -/
def nextUploadId (c : Contents) : String :=
  "upload-" ++ toString (c.uploads.entries.length + 1)

def beginUpload (c : Contents) (o : ObjectId) (contentType : Option String) (metadata : Metadata) :
    Contents :=
  { c with uploads := c.uploads.insert c.nextUploadId { object := o.path, contentType, metadata } }

def changeUpload (c : Contents) (id : String) (f : Upload → Upload) : Contents :=
  match c.uploads.get? id with
  | some u => { c with uploads := c.uploads.insert id (f u) }
  | none => c

def addPart (c : Contents) (id : String) (n : Int) (data : Bytes) : Contents :=
  c.changeUpload id (·.setPart n data)

def abortUpload (c : Contents) (id : String) : Contents :=
  c.changeUpload id fun u => { u with aborted := true }

/-- Makes the object out of the parts with the given numbers, in that order. -/
def completeUpload (c : Contents) (id : String) (o : ObjectId) (numbers : List Int) : Contents :=
  match c.uploads.get? id with
  | some u =>
    (c.changeUpload id fun u => { u with completed := true }).put o
      { data := u.assemble numbers, contentType := u.contentType, metadata := u.metadata }
  | none => c

end Contents
end ObjectChannel.Store
