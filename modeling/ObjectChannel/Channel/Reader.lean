/-
A read-only channel without a local copy. Each read fetches the range from the cursor up to what the
destination takes; moving the cursor fetches nothing.

Streams may deliver less than asked for, so a fetch goes on until the destination is full or the
stream has nothing more. The cursor moves with every chunk that arrives, also when a later one does
not.
-/
import ObjectChannel.Limits
import ObjectChannel.Channel.Action

namespace ObjectChannel

structure Reader where
  object : ObjectId
  position : Nat := 0
  closed : Bool := false
  deriving Inhabited

variable {σ τ : Type}

namespace Reader

open ChannelAction

abbrev Step (σ α : Type) := ChannelAction Reader σ α

/-- A reader at a position, which must not be negative. -/
def opened (object : ObjectId) (position : Int) : Except Failure Reader :=
  if position < 0 then .error .negativePosition
  else .ok { object, position := position.toNat }

def requireOpen : Step σ Unit := do
  let r ← this
  if r.closed then Action.fail (.ofChannel (.closed r.object)) else Action.pure ()

/-! ## Fetching a range -/

/-- What came out of a stream: the bytes that arrived, how it ended, and the stream left. -/
structure Delivery (τ : Type) where
  bytes : Bytes
  ending : Except Failure Unit
  stream : τ

/-- Reads a stream until there is no room left or it has nothing more; `got` has arrived already. A
chunk that exceeds the room is not taken. -/
def drain (b : Backend σ τ) (t : τ) (room : Nat) (got : Bytes) : Delivery τ :=
  if room = 0 then ⟨got, .ok (), t⟩
  else
    match b.read t (some room) with
    | .error e => ⟨got, .error e, t⟩
    | .ok (chunk, t') =>
      if chunk.size = 0 then ⟨got, .ok (), t'⟩
      else if room < chunk.size then ⟨got, .error .chunkTooLong, t'⟩
      else drain b t' (room - chunk.size) (got ++ chunk)
termination_by room

/-- The bytes that a fetch brought, also if it failed, and whether it did. -/
structure Fetched where
  bytes : Bytes
  outcome : Except Failure Unit

/-- How a failure of the store or of a stream is reported: as a failed transfer, unless it is an
interrupt. -/
def report (object : ObjectId) : Except Failure Unit → Except Failure Unit
  | .error e => .error (if e.isInterrupt then e else .transferFailed .readRange object e)
  | .ok _ => .ok ()

/-- How a fetch ended: a failing close counts for more than what the stream did before. -/
def ending (closing stream : Except Failure Unit) : Except Failure Unit :=
  match closing with
  | .error e => .error e
  | .ok _ => stream

/-- Fetches up to `capacity` bytes from the cursor on, with one request. The stream is closed
however it ended. This step itself does not fail; it tells what arrived also when the fetch did. -/
def fetch (b : Backend σ τ) (capacity : Nat) : Step σ Fetched := fun (r, w) =>
  let start := r.position
  let opening : Action (World σ) τ := do
    World.log (.readingRange start (start + capacity) r.object)
    World.request b (.get r.object (some (start, start + capacity)))
  match opening w with
  | (.error e, w) => (.ok ⟨.empty, report r.object (.error e)⟩, (r, w))
  | (.ok stream, w) =>
    let d := drain b stream capacity .empty
    let (closing, w) := World.onStore (b.close d.stream) w
    (.ok ⟨d.bytes, report r.object (ending closing d.ending)⟩,
      ({ r with position := start + d.bytes.size }, w))

/-- Fetches up to `capacity` bytes, and counts them if that succeeds. Nothing is fetched where there is
no room. -/
def fetchUpTo (b : Backend σ τ) (capacity : Nat) : Step σ Fetched := do
  let r ← this
  if r.closed then return ⟨.empty, .error (.ofChannel (.closed r.object))⟩
  else if capacity = 0 then return ⟨.empty, .ok ()⟩
  else
    let got ← fetch b capacity
    match got.outcome with
    | .error _ => return got
    | .ok _ =>
      world (World.count fun m => { m with rangeBytes := m.rangeBytes + got.bytes.size })
      return got

/-- A destination after a read into it, and the number of bytes read or the failure. -/
structure Filled where
  buffer : Bytes
  outcome : Except Failure Nat

/-- Reads into a destination, which keeps what arrived also when the read fails. -/
def readInto (b : Backend σ τ) (buffer : Bytes) : Step σ Filled := do
  let got ← fetchUpTo b buffer.size
  return ⟨buffer.overwrite 0 got.bytes, got.outcome.map fun _ => got.bytes.size⟩

/-- Reads up to `capacity` bytes; what arrived before a failure is lost. -/
def readChunk (b : Backend σ τ) (capacity : Nat) : Step σ Bytes := do
  let got ← fetchUpTo b capacity
  Action.ofExcept got.outcome
  return got.bytes

end Reader

/-- Reads chunk after chunk until one is empty; `got` was read before. A failure loses the chunks before
it, and nothing comes of chunks without end. -/
def Backend.readOn (b : Backend σ τ) (capacity : Nat) (got : Bytes) (s : Reader × World σ) :
    Option (Except Failure Bytes × (Reader × World σ)) :=
  match Reader.readChunk b capacity s with
  | (.error e, s) => some (.error e, s)
  | (.ok chunk, s) =>
    if chunk.isEmpty then some (.ok got, s) else b |>.readOn capacity (got ++ chunk) s
partial_fixpoint

namespace Reader

open ChannelAction

/-! ## The operations of the channel -/

/-- Reads everything up to the end, in the read size of the limits. -/
def readRest (b : Backend σ τ) (limits : Limits) : Step σ Bytes := do
  let capacity ← Action.ofExcept (limits.platform.capacity Capacity.maxSize limits.readSize)
  fun s => (b.readOn capacity .empty s).getD (.error .endless, s)

/-- At most `size` bytes, or everything up to the end if the size is negative or not given. -/
def read (b : Backend σ τ) (limits : Limits) (size : Option Int) : Step σ Bytes :=
  match size with
  | none => readRest b limits
  | some n =>
    if n < 0 then readRest b limits
    else do
      let capacity ← Action.ofExcept (limits.platform.capacity Capacity.maxSize n)
      readChunk b capacity

/-- Moves the cursor: to a position counted from the start (0) or from the cursor (1). The end is
not known. -/
def seek (offset whence : Int) : Step σ Nat := do
  requireOpen
  let r ← this
  if whence = 0 ∨ whence = 1 then
    let target := if whence = 0 then offset else r.position + offset
    if target < 0 then Action.fail .negativePosition
    else
      change fun r => { r with position := target.toNat }
      return target.toNat
  else Action.fail (.ofChannel .seekFromEnd)

def tell : Step σ Nat := do
  requireOpen
  return (← this).position

def close : Step σ Unit := change fun r => { r with closed := true }

end Reader
end ObjectChannel
