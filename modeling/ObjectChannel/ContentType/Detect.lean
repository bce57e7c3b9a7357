/-
The content type of an object, from its first bytes and its name.

The first bytes decide where they are a known signature. Only of a zip archive, the form that many
document formats share, the name may say more. Without a signature the name decides.
-/
import ObjectChannel.Bytes
import ObjectChannel.ContentType.Name

namespace ObjectChannel.ContentType

/-- Bytes at a position that tell a format. -/
structure Signature where
  position : Nat
  bytes : List UInt8
  type : String

def zip : String := "application/zip"

/-- The known signatures; of several that are present the first one counts. Most are words: `PNG`,
`GIF87a`, `GIF89a`, `II*`, `MM`, `%PDF-`, `PK`, `BZh`, `7zXZ`, `PAR1`, `ustar` and `WEBP`. -/
def signatures : List Signature := [
  ⟨0, [0x89, 0x50, 0x4E, 0x47, 0x0D, 0x0A, 0x1A, 0x0A], "image/png"⟩,
  ⟨0, [0xFF, 0xD8, 0xFF], "image/jpeg"⟩,
  ⟨0, [0x47, 0x49, 0x46, 0x38, 0x37, 0x61], "image/gif"⟩,
  ⟨0, [0x47, 0x49, 0x46, 0x38, 0x39, 0x61], "image/gif"⟩,
  ⟨0, [0x49, 0x49, 0x2A, 0x00], "image/tiff"⟩,
  ⟨0, [0x4D, 0x4D, 0x00, 0x2A], "image/tiff"⟩,
  ⟨0, [0x25, 0x50, 0x44, 0x46, 0x2D], "application/pdf"⟩,
  ⟨0, [0x50, 0x4B, 0x03, 0x04], zip⟩,
  ⟨0, [0x1F, 0x8B], "application/gzip"⟩,
  ⟨0, [0x42, 0x5A, 0x68], "application/x-bzip2"⟩,
  ⟨0, [0xFD, 0x37, 0x7A, 0x58, 0x5A, 0x00], "application/x-xz"⟩,
  ⟨0, [0x50, 0x41, 0x52, 0x31], "application/vnd.apache.parquet"⟩,
  ⟨257, [0x75, 0x73, 0x74, 0x61, 0x72], "application/x-tar"⟩,
  ⟨8, [0x57, 0x45, 0x42, 0x50], "image/webp"⟩]

/-- Whether the signature is present, in full. -/
def Signature.isIn (s : Signature) (head : Bytes) : Bool :=
  head.holdsAt s.position (Bytes.ofList s.bytes)

/-- The type of the first signature that is present. -/
def ofSignature (head : Bytes) : Option String :=
  (signatures.find? (·.isIn head)).map (·.type)

/-- The type where neither the bytes nor the name say anything. -/
def fallback : String := "application/octet-stream"

/-- The type that a name suggests. An empty name suggests none, and an empty type is none. -/
def guess (names : NameTypes) (name : Option String) : Option String :=
  ((name.filter (· != "")).bind names).filter (· != "")

/-- The type from bytes and a name. -/
def detect (names : NameTypes) (head : Bytes) (name : Option String) : String :=
  match ofSignature head, guess names name with
  | some type, some better => if type = zip then better else type
  | some type, none => type
  | none, some type => type
  | none, none => fallback

/-- How many bytes of a file are looked at. -/
def headSize : Nat := 512

/-- The type of a file with the given content. -/
def ofFile (names : NameTypes) (content : Bytes) (name : Option String) : String :=
  detect names (content.take headSize) name

end ObjectChannel.ContentType
