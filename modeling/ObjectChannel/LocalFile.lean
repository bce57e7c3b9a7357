/-
An open local file: content, cursor, and what it is open for.

Positions and sizes have to fit a signed 64-bit word. Reading past the end gives nothing; writing
or truncating past the end fills with zeros. One transfer moves as much as the platform moves at a
time, and no byte lies behind the largest size that a file can have. In append mode every write goes
to the end. A failing operation changes neither content nor cursor. The file system is taken to have
space for what is written.
-/
import ObjectChannel.OpenOption
import ObjectChannel.Platform

namespace ObjectChannel

structure LocalFile where
  content : Bytes
  cursor : Nat
  access : FileAccess
  appending : Bool
  deriving Inhabited

namespace LocalFile

open Capacity (fitsWord)

/-- The file as the options open it. Appending starts at the end. -/
def opened (os : OpenOptions) (content : Bytes) : LocalFile :=
  let content := if os.truncates then .empty else content
  { content
    cursor := if os.isAppending then content.size else 0
    access := os.access
    appending := os.isAppending }

def isReadable (f : LocalFile) : Bool := f.access != .writeOnly

def isWritable (f : LocalFile) : Bool := f.access != .readOnly

/-- Whether a number fits a signed 32-bit word. -/
def fitsHalfWord (n : Int) : Bool := -2147483648 ≤ n && n ≤ 2147483647

/-- At most `n` bytes from the cursor on, moving the cursor behind them. -/
def take (f : LocalFile) (n : Nat) : Bytes × LocalFile :=
  let data := f.content.slice f.cursor (f.cursor + n)
  (data, { f with cursor := f.cursor + data.size })

/-- How many bytes are behind the cursor. -/
def rest (f : LocalFile) : Nat := f.content.size - f.cursor

/-- The destination for everything behind the cursor: a byte more than there is, so that the end shows.
Where the file is empty, or the cursor is past its end, it is a block of the usual size. -/
def restRoom (f : LocalFile) : Nat :=
  if f.content.size = 0 ∨ f.content.size < f.cursor then 8192 else f.rest + 1

variable (p : Platform)

/-- The bytes from the cursor on: at most `size` of them, as far as they are moved at a time, or all if
the size is negative or not given. -/
def read (f : LocalFile) (size : Option Int) : Except Failure (Bytes × LocalFile) :=
  let n := size.getD (-1)
  if !fitsWord n then .error .outOfRange
  else if !f.isReadable then .error .fileMode
  else if n < 0 then
    if p.room < f.restRoom then .error .noMemory else .ok (f.take f.rest)
  else (p.capacity Capacity.maxFresh n).map fun k => f.take (p.moved k)

/-- As many bytes as a destination of the given capacity takes, and are moved at a time. -/
def readInto (f : LocalFile) (capacity : Nat) : Except Failure (Bytes × LocalFile) :=
  if f.isReadable then .ok (f.take (p.moved capacity)) else .error .fileMode

/-- Writes at the cursor, or at the end in append mode, as many bytes as are moved at a time and the
file can have; the cursor is left behind the written bytes. Writing nothing has no effect. -/
def write (f : LocalFile) (data : Option Bytes) : Except Failure (Nat × LocalFile) :=
  match data with
  | none => .error .notBytes
  | some d =>
    if !f.isWritable then .error .fileMode
    else if d.isEmpty then .ok (0, f)
    else
      let pos := if f.appending then f.content.size else f.cursor
      if p.fileMax ≤ pos then .error (.system .tooLarge)
      else
        let d := d.take (min (p.moved d.size) (p.fileMax - pos))
        .ok (d.size, { f with content := f.content.overwrite pos d, cursor := pos + d.size })

/-- Cuts or extends the file to a size, the cursor's position if none is given. -/
def truncate (f : LocalFile) (size : Option Int) : Except Failure (Nat × LocalFile) :=
  if !f.isWritable then .error .fileMode
  else
    let n := size.getD f.cursor
    if !fitsWord n then .error .outOfRange
    else if n < 0 then .error (.system .invalid)
    else if p.fileMax < n.toNat then .error (.system .tooLarge)
    else .ok (n.toNat, { f with content := f.content.resize n.toNat })

/-- The place that an offset leads to: counted from the start (0), the cursor (1) or the end (2), or
where the file system finds data (3) or a gap (4). -/
def place (f : LocalFile) (offset whence : Int) : Except SystemFault Int :=
  if whence = 0 then .ok offset
  else if whence = 1 then .ok (f.cursor + offset)
  else if whence = 2 then .ok (f.content.size + offset)
  else if whence = 3 ∨ whence = 4 then (p.locate whence f.content offset).map fun (k : Nat) => (k : Int)
  else .error .invalid

/-- Moves the cursor to a place, which has to be one that a file can have. -/
def seek (f : LocalFile) (offset whence : Int) : Except Failure (Nat × LocalFile) :=
  if !fitsHalfWord whence || !fitsWord offset then .error .outOfRange
  else
    match f.place p offset whence with
    | .error e => .error (.system e)
    | .ok pos =>
      if pos < 0 || p.fileMax < pos then .error (.system .invalid)
      else .ok (pos.toNat, { f with cursor := pos.toNat })

end LocalFile
end ObjectChannel
