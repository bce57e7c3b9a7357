/-
The three kinds of channel under one roof, with the operations that users of a channel perform and
what they get in return. An operation that a kind of channel does not have fails.
-/
import ObjectChannel.Channel.Mirrored
import ObjectChannel.Channel.Reader
import ObjectChannel.Channel.Writer

namespace ObjectChannel

inductive Channel where
  | writer (w : Writer)
  | reader (r : Reader)
  | mirrored (m : Mirrored)
  deriving Inhabited

inductive Operation where
  | write (data : Option Bytes)
  | read (size : Option Int)
  /-- A read into a destination. -/
  | readInto (buffer : Bytes)
  | truncate (size : Option Int)
  | seek (offset whence : Int)
  | setPosition (position : Int)
  | position
  | tell
  | size
  | readable
  | writable
  | seekable
  | objectId
  | partCount
  | uploadId
  | options
  | setLastModified (t : Option Time.DateTime)
  /-- The mirror file is removed by someone else. -/
  | removeMirror
  /-- The block that the channel was opened for is entered. -/
  | enter
  /-- The block is left, with a failure in flight or without. -/
  | leave (failed : Bool)
  | close
  | discard
  deriving Inhabited

inductive Answer where
  | none
  | count (n : Int)
  | flag (b : Bool)
  | bytes (data : Bytes)
  | text (s : Option String)
  | options (os : List OpenOption)
  /-- A destination after a read into it, with the number of bytes read or the failure. -/
  | filled (buffer : Bytes) (outcome : Except Failure Nat)
  deriving Inhabited

namespace Channel

variable {σ τ α χ : Type}

def object : Channel → ObjectId
  | .writer w => w.object
  | .reader r => r.object
  | .mirrored m => m.object

/-- A step of one kind of channel as a step of channels. -/
def lift (wrap : χ → Channel) (c : χ) (x : ChannelAction χ σ α) : ChannelAction Channel σ α :=
  fun s =>
    match x (c, s.2) with
    | (r, (c, w)) => (r, (wrap c, w))

/-- What everything that channels do depends on, besides the world. -/
structure Setting (σ τ : Type) where
  backend : Backend σ τ
  limits : Limits := {}
  names : ContentType.NameTypes := ContentType.ofName

def performWriter (e : Setting σ τ) : Operation → Writer.Step σ Answer
  | .write data => do return .count (← Writer.write e.backend e.limits data)
  | .close => do Writer.close e.backend e.limits; return .none
  | .discard => do Writer.discard e.backend; return .none
  | .leave failed => do Writer.leave e.backend e.limits failed; return .none
  | .enter => return .flag true
  | .readable => return .flag false
  | .writable => return .flag true
  | .seekable => return .flag false
  | .objectId => do return .text (← ChannelAction.this).object.uri
  | .partCount => do return .count (← ChannelAction.this).parts.length
  | .uploadId => do return .text (← ChannelAction.this).uploadId
  | .setLastModified _ => return .none
  | .setPosition p => do
    ChannelAction.change fun (w : Writer) => { w with notedPosition := some p }
    return .none
  | .position => do
    match (← ChannelAction.this).notedPosition with
    | some p => return .count p
    | none => Action.fail .noOperation
  | .readInto buffer => return .filled buffer (.error .noOperation)
  | _ => Action.fail .noOperation

def performReader (e : Setting σ τ) : Operation → Reader.Step σ Answer
  | .read size => do return .bytes (← Reader.read e.backend e.limits size)
  | .readInto buffer => do
    let filled ← Reader.readInto e.backend buffer
    return .filled filled.buffer filled.outcome
  | .seek offset whence => do return .count (← Reader.seek offset whence)
  | .setPosition p => do let _ ← Reader.seek p 0; return .none
  | .position | .tell => do return .count (← Reader.tell)
  | .write _ | .truncate _ => Action.fail (.ofChannel .readOnly)
  | .size => Action.fail (.ofChannel .sizeUnknown)
  | .close | .leave _ => do Reader.close; return .none
  | .enter => return .flag true
  | .readable => return .flag true
  | .writable => return .flag false
  | .seekable => return .flag true
  | .objectId => do return .text (← ChannelAction.this).object.uri
  | .setLastModified _ => return .none
  | _ => Action.fail .noOperation

/-- A read into a destination does not change it if it fails. -/
def fillFromMirror (p : Platform) (buffer : Bytes) : Mirrored.Step σ Answer := fun s =>
  match Mirrored.readInto p buffer s with
  | (.ok (buffer, n), s) => (.ok (.filled buffer (.ok n)), s)
  | (.error e, s) => (.ok (.filled buffer (.error e)), s)

/-- Removes the mirror file behind the channel's back. -/
def unlinkMirror : Mirrored.Step σ Unit := fun (m, w) =>
  if w.hasMirror m.mirror then ChannelAction.world (World.removeMirror m.mirror) (m, w)
  else (.error (.system .missing), (m, w))

def performMirrored (e : Setting σ τ) : Operation → Mirrored.Step σ Answer
  | .read size => do return .bytes (← Mirrored.read e.limits.platform size)
  | .readInto buffer => fillFromMirror e.limits.platform buffer
  | .write data => do return .count (← Mirrored.write e.limits.platform data)
  | .truncate size => do return .count (← Mirrored.truncate e.limits.platform size)
  | .seek offset whence => do return .count (← Mirrored.seek e.limits.platform offset whence)
  | .setPosition p => do let _ ← Mirrored.seek e.limits.platform p 0; return .none
  | .position | .tell => do return .count (← Mirrored.tell)
  | .size => do return .count (← Mirrored.size)
  | .close | .leave _ => do Mirrored.close e.backend e.limits e.names; return .none
  | .enter => return .flag true
  | .readable => do return .flag (← Mirrored.readable)
  | .writable => do return .flag (← Mirrored.writable)
  | .seekable => return .flag true
  | .objectId => do return .text (← ChannelAction.this).object.uri
  | .options => do return .options (← ChannelAction.this).options.toList
  | .setLastModified t => do
    ChannelAction.change fun (c : Mirrored) => { c with lastModified := t }
    return .none
  | .removeMirror => do unlinkMirror; return .none
  | _ => Action.fail .noOperation

/-- Performs an operation on a channel. -/
def perform (e : Setting σ τ) (op : Operation) : ChannelAction Channel σ Answer := fun s =>
  match s.1 with
  | .writer w => lift .writer w (performWriter e op) s
  | .reader r => lift .reader r (performReader e op) s
  | .mirrored m => lift .mirrored m (performMirrored e op) s

end Channel
end ObjectChannel
