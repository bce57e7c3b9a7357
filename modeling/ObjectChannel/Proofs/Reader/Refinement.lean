/-
A reader does as a cursor over the bytes of the object does, whatever chunks its streams deliver
them in. The cursor has no limits: it gives as many bytes as are asked for. The one thing that the
platform makes of it is that a read fails where there is no room for its destination.
-/
import ObjectChannel.Proofs.MemoryView
import ObjectChannel.Proofs.Reader.Fetch
import ObjectChannel.Proofs.Simulation

namespace ObjectChannel

/-- A cursor over bytes that do not change. -/
structure ByteCursor where
  content : List UInt8
  position : Nat
  closed : Bool := false

namespace ByteCursor

/-- The bytes from the cursor on. -/
def rest (c : ByteCursor) : List UInt8 := c.content.drop c.position

def advance (c : ByteCursor) (k : Nat) : ByteCursor := { c with position := c.position + k }

/-- Moves the cursor, counted from the start (0) or from the cursor (1). -/
def seek (c : ByteCursor) (o : ObjectId) (offset whence : Int) : Except Failure Nat :=
  if c.closed then .error (.ofChannel (.closed o))
  else if whence = 0 ∨ whence = 1 then
    let target := if whence = 0 then offset else c.position + offset
    if target < 0 then .error .negativePosition else .ok target.toNat
  else .error (.ofChannel .seekFromEnd)

/-- Reads at most `size` bytes, or all that are left if it is negative or not given. -/
def read (c : ByteCursor) (o : ObjectId) (size : Option Int) : Except Failure Answer × ByteCursor :=
  if c.closed then (.error (.ofChannel (.closed o)), c)
  else
    let n := size.getD (-1)
    let data := if n < 0 then c.rest else c.rest.take n.toNat
    (.ok (.bytes (.ofList data)), c.advance data.length)

/-- Reads into a destination, which stays as it is behind the bytes that were read. -/
def readInto (c : ByteCursor) (o : ObjectId) (buffer : Bytes) : Answer × ByteCursor :=
  if c.closed then (.filled buffer (.error (.ofChannel (.closed o))), c)
  else
    let data := c.rest.take buffer.size
    (.filled (.ofList (data ++ buffer.toList.drop data.length)) (.ok data.length),
      c.advance data.length)

/-- What the operations of a reader do to the cursor. -/
def ideal (o : ObjectId) : Reference ByteCursor := fun op c =>
  match op with
  | .read size => c.read o size
  | .readInto buffer => (.ok (c.readInto o buffer).1, (c.readInto o buffer).2)
  | .seek offset whence =>
    match c.seek o offset whence with
    | .ok p => (.ok (.count p), { c with position := p })
    | .error e => (.error e, c)
  | .setPosition p =>
    match c.seek o p 0 with
    | .ok p => (.ok .none, { c with position := p })
    | .error e => (.error e, c)
  | .position | .tell =>
    (if c.closed then .error (.ofChannel (.closed o)) else .ok (.count c.position), c)
  | .write _ | .truncate _ => (.error (.ofChannel .readOnly), c)
  | .size => (.error (.ofChannel .sizeUnknown), c)
  | .close | .leave _ => (.ok .none, { c with closed := true })
  | .enter | .readable | .seekable => (.ok (.flag true), c)
  | .writable => (.ok (.flag false), c)
  | .objectId => (.ok (.text o.uri), c)
  | .setLastModified _ => (.ok .none, c)
  | _ => (.error .noOperation, c)

/-- The size of the destination that an operation makes for itself, if it makes one. -/
def destination? (readSize : Int) : Operation → Option Int
  | .read size => some (Reader.destination readSize size)
  | _ => none

/-- The failure of an operation that no destination can be made for. -/
def refusal? (limits : Limits) (op : Operation) : Option Failure :=
  (destination? limits.readSize op).bind fun n =>
    match limits.platform.capacity Capacity.maxSize n with
    | .error e => some e
    | .ok _ => none

/-- The cursor on a platform: what cannot have its destination fails, and leaves it as it was. -/
def perform (o : ObjectId) (limits : Limits) : Reference ByteCursor := fun op c =>
  match refusal? limits op with
  | some e => (.error e, c)
  | none => ideal o op c

/-- There is room for every destination that operations make for themselves. -/
def HasRooms (limits : Limits) (ops : List Operation) : Prop :=
  ∀ op ∈ ops, ∀ n ∈ destination? limits.readSize op, limits.platform.HasRoom n

instance (limits : Limits) (ops : List Operation) : Decidable (HasRooms limits ops) :=
  inferInstanceAs (Decidable (∀ op ∈ ops, ∀ n ∈ destination? _ op, _))

variable {limits : Limits} {o : ObjectId} {op : Operation} {ops : List Operation}

theorem refusal?_of_hasRoom (h : ∀ n ∈ destination? limits.readSize op, limits.platform.HasRoom n) :
    refusal? limits op = none := by
  unfold refusal?
  cases hn : destination? limits.readSize op with
  | none => rfl
  | some n =>
    have hroom := h n hn
    simp only [Option.bind_some, hroom.capacity hroom.le_maxSize]

/-- Where there is room for all destinations, the platform makes no difference. -/
theorem HasRooms.eq_ideal (h : HasRooms limits ops) (c : ByteCursor) :
    (perform o limits).outcomes ops c = (ideal o).outcomes ops c ∧
      (perform o limits).final ops c = (ideal o).final ops c := by
  refine Reference.Along.run_eq (P := fun op _ => refusal? limits op = none) (fun op c hop => ?_)
    (Reference.along_of_forall fun op hop _ => refusal?_of_hasRoom (h op hop))
  simp only [perform, hop]

end ByteCursor

namespace Reader

open ChannelAction

variable {σ τ : Type} {b : Backend σ τ} {V : b.View}

/-- The reader stands where the cursor stands, on an object with the cursor's content. -/
structure Shows (V : b.View) (o : ObjectId) (x : StoredObject) (h : Holdings)
    (s : Reader × World σ) (c : ByteCursor) : Prop where
  reader : s.1 = { object := o, position := c.position, closed := c.closed }
  content : c.content = x.data.toList
  holds : V.holds s.2.store = h

variable {o : ObjectId} {x : StoredObject} {h : Holdings} {s : Reader × World σ} {c : ByteCursor}

theorem position_of_shows (hs : Shows V o x h s c) : s.1.position = c.position := by
  rw [hs.reader]

theorem wanted_toList (hs : Shows V o x h s c) (n : Nat) :
    (wanted s x n).toList = c.rest.take n := by
  rw [wanted, Bytes.toList_slice, position_of_shows hs, ByteCursor.rest, hs.content, List.drop_take,
    Nat.add_sub_cancel_left]

theorem drop_toList (hs : Shows V o x h s c) : (x.data.drop s.1.position).toList = c.rest := by
  rw [Bytes.toList_drop, position_of_shows hs, ByteCursor.rest, hs.content]

theorem Shows.advance (hs : Shows V o x h s c) {s' : Reader × World σ} {k : Nat}
    (hm : MovedOn V s s' k) : Shows V o x h s' (c.advance k) :=
  ⟨by rw [hm.reader, hs.reader]; rfl, hs.content, hm.holds.trans hs.holds⟩

/-- Seeking on the reader is seeking on the cursor. -/
theorem seek_of_shows (hs : Shows V o x h s c) (offset whence : Int) :
    seek offset whence s = (c.seek o offset whence, match c.seek o offset whence with
      | .ok p => ({ s.1 with position := p }, s.2)
      | .error _ => s) := by
  obtain ⟨r, W⟩ := s
  obtain rfl : r = _ := hs.reader
  simp only [seek, ByteCursor.seek, Action.bind_apply, requireOpen_apply, this_apply]
  cases hc : c.closed with
  | true => rfl
  | false =>
    simp only [Bool.false_eq_true, ite_false]
    by_cases hw : whence = 0 ∨ whence = 1
    · simp only [hw, ite_true]
      by_cases ht : (if whence = 0 then offset else (c.position : Int) + offset) < 0
      · simp only [ht, ite_true, Action.fail_apply]
      · simp only [ht, ite_false]
        rfl
    · simp only [hw, ite_false]
      rfl

theorem tell_of_shows (hs : Shows V o x h s c) :
    tell s = (if c.closed then .error (.ofChannel (.closed o)) else .ok c.position, s) := by
  obtain ⟨r, W⟩ := s
  obtain rfl : r = _ := hs.reader
  simp only [tell, Action.bind_apply, requireOpen_apply, this_apply]
  cases c.closed <;> rfl

/-- A read that brings the next bytes is a read from the cursor. -/
theorem brings_of_shows (hs : Shows V o x h s c) {s' : Reader × World σ} {got : Bytes}
    {data : List UInt8} (hgot : got.toList = data) (hmoved : MovedOn V s s' got.size) :
    got = .ofList data ∧ Shows V o x h s' (c.advance data.length) := by
  refine ⟨Bytes.ext_toList (hgot.trans (Bytes.toList_ofList _).symm), ?_⟩
  rw [← hgot, Bytes.length_toList]
  exact hs.advance hmoved

/-- Reading from the reader is reading from the cursor, if the destination can be made. -/
theorem read_of_shows (limits : Limits) (hV : V.Delivers o) (hx : h.object o = some x)
    (hsize : 1 ≤ limits.readSize) (hs : Shows V o x h s c) (size : Option Int) :
    (read b limits size s).1.map Answer.bytes =
        (ByteCursor.perform o limits (.read size) c).1 ∧
      Shows V o x h (read b limits size s).2 (ByteCursor.perform o limits (.read size) c).2 := by
  have hobject : s.1.object = o := by rw [hs.reader]
  have hclosed : s.1.closed = c.closed := by rw [hs.reader]
  have hV' : V.Delivers s.1.object := hobject ▸ hV
  have hx' : (V.holds s.2.store).object s.1.object = some x := by rw [hobject, hs.holds, hx]
  simp only [read_apply, ByteCursor.perform, ByteCursor.refusal?, ByteCursor.destination?,
    Option.bind_some]
  cases hcap : limits.platform.capacity Capacity.maxSize (destination limits.readSize size) with
  | error e => exact ⟨rfl, hs⟩
  | ok k =>
    obtain ⟨-, hk⟩ := Platform.of_capacity_ok hcap
    simp only [ByteCursor.ideal, ByteCursor.read]
    by_cases hn : size.getD (-1) < 0
    · have hpos : 0 < k := by
        rw [hk, destination, if_pos hn]
        omega
      cases hc : c.closed with
      | true =>
        simp only [hn, ite_true, readOn_of_closed (hclosed.trans hc), hobject]
        exact ⟨rfl, hs⟩
      | false =>
        obtain ⟨s', hon, hmoved⟩ := readOn_of_delivers hV' hx' (hclosed.trans hc) hpos .empty
        obtain ⟨hbytes, hs'⟩ := brings_of_shows hs (drop_toList hs) hmoved
        simp only [hn, ite_true, hon, ByteArray.empty_append, hbytes, Bool.false_eq_true, ite_false]
        exact ⟨rfl, hs'⟩
    · obtain rfl : k = (size.getD (-1)).toNat := by rw [hk, destination, if_neg hn]
      cases hc : c.closed with
      | true =>
        simp only [hn, ite_false, readChunk_of_closed (hclosed.trans hc), hobject]
        exact ⟨rfl, hs⟩
      | false =>
        obtain ⟨hr, hmoved⟩ := readChunk_of_delivers hV' hx' (hclosed.trans hc) (size.getD (-1)).toNat
        obtain ⟨hbytes, hs'⟩ := brings_of_shows hs (wanted_toList hs _) hmoved
        simp only [hn, ite_false, hr, hbytes, Bool.false_eq_true]
        exact ⟨rfl, hs'⟩

theorem readInto_of_shows (hV : V.Delivers o) (hx : h.object o = some x) (hs : Shows V o x h s c)
    (buffer : Bytes) :
    (readInto b buffer s).1.map (fun filled => Answer.filled filled.buffer filled.outcome) =
        .ok (c.readInto o buffer).1 ∧
      Shows V o x h (readInto b buffer s).2 (c.readInto o buffer).2 := by
  have hobject : s.1.object = o := by rw [hs.reader]
  have hclosed : s.1.closed = c.closed := by rw [hs.reader]
  have hx' : (V.holds s.2.store).object s.1.object = some x := by rw [hobject, hs.holds, hx]
  cases hc : c.closed with
  | true =>
    have hsame : buffer.overwrite 0 .empty = buffer :=
      Bytes.ext_toList (by simp [Bytes.toList_overwrite])
    simp only [readInto_of_closed (hclosed.trans hc), ByteCursor.readInto, hc, ite_true, hobject,
      hsame]
    exact ⟨rfl, hs⟩
  | false =>
    obtain ⟨hr, hmoved⟩ := readInto_of_delivers (hobject ▸ hV) hx' (hclosed.trans hc) buffer
    have hdata := wanted_toList hs buffer.size
    have hlength : (wanted s x buffer.size).size = (c.rest.take buffer.size).length := by
      rw [← hdata, Bytes.length_toList]
    have hbuffer : buffer.overwrite 0 (wanted s x buffer.size) =
        .ofList (c.rest.take buffer.size ++
          buffer.toList.drop (c.rest.take buffer.size).length) := by
      apply Bytes.ext_toList
      rw [Bytes.toList_overwrite, hlength, hdata]
      simp
    obtain ⟨-, hshows⟩ := brings_of_shows hs hdata hmoved
    simp only [hr, hbuffer, hlength, ByteCursor.readInto, hc, Bool.false_eq_true, ite_false]
    exact ⟨rfl, hshows⟩

/-- Every operation comes to the same on the reader and on the cursor. -/
theorem simulates (e : Channel.Setting σ τ) {V : e.backend.View} (hV : V.Delivers o)
    (hx : h.object o = some x) (hsize : 1 ≤ e.limits.readSize) :
    Simulates (Channel.performReader e) (ByteCursor.perform o e.limits) (fun _ => true)
      (Shows V o x h) := by
  intro op s c _ hs
  obtain ⟨r, W⟩ := s
  obtain rfl : r = _ := hs.reader
  cases op with
  | read size =>
    obtain ⟨hr, hs'⟩ := read_of_shows e.limits hV hx hsize hs size
    simp only [Channel.performReader, Action.bind_apply, ← hr]
    rcases hread : read e.backend e.limits size _ with ⟨_ | _, s'⟩ <;> rw [hread] at hs' <;>
      exact ⟨rfl, hs'⟩
  | readInto buffer =>
    obtain ⟨hr, hs'⟩ := readInto_of_shows hV hx hs buffer
    show _ = Except.ok (c.readInto o buffer).1 ∧ Shows V o x h _ (c.readInto o buffer).2
    simp only [Channel.performReader, Action.bind_apply, ← hr]
    rcases hread : readInto e.backend buffer _ with ⟨_ | _, s'⟩ <;> rw [hread] at hs' <;>
      exact ⟨rfl, hs'⟩
  | seek offset whence =>
    have hideal : ByteCursor.perform o e.limits (.seek offset whence) c =
      ByteCursor.ideal o (.seek offset whence) c := rfl
    simp only [Channel.performReader, hideal, ByteCursor.ideal, Action.bind_apply, seek_of_shows hs]
    cases c.seek o offset whence with
    | error e => exact ⟨rfl, hs⟩
    | ok p => exact ⟨rfl, rfl, hs.content, hs.holds⟩
  | setPosition p =>
    have hideal : ByteCursor.perform o e.limits (.setPosition p) c =
      ByteCursor.ideal o (.setPosition p) c := rfl
    simp only [Channel.performReader, hideal, ByteCursor.ideal, Action.bind_apply, seek_of_shows hs]
    cases c.seek o p 0 with
    | error e => exact ⟨rfl, hs⟩
    | ok p => exact ⟨rfl, rfl, hs.content, hs.holds⟩
  | position | tell =>
    have hideal : ByteCursor.perform o e.limits .tell c = ByteCursor.ideal o .tell c := rfl
    have hposition : ByteCursor.perform o e.limits .position c = ByteCursor.ideal o .tell c := rfl
    simp only [Channel.performReader, hideal, hposition, ByteCursor.ideal, Action.bind_apply,
      tell_of_shows hs]
    cases hc : c.closed <;> rw [hc] at hs <;> exact ⟨rfl, hs⟩
  | close | leave _ => exact ⟨rfl, rfl, hs.content, hs.holds⟩
  | _ => exact ⟨rfl, hs⟩

/-- **A reader does as a cursor over the bytes of the object does**, but for reads whose destination
cannot be made; with room for all of them it does just the same. The streams may deliver the bytes in
any chunks, and the operations may come in any order. -/
theorem refines_cursor (e : Channel.Setting σ τ) (V : e.backend.View) {o : ObjectId}
    {x : StoredObject} {p : Int} {r : Reader} {W : World σ} (hV : V.Delivers o)
    (hx : (V.holds W.store).object o = some x) (hsize : 1 ≤ e.limits.readSize)
    (hr : opened o p = .ok r) (ops : List Operation) :
    let start : ByteCursor := { content := x.data.toList, position := p.toNat }
    let outcomes := (turns (Channel.performReader e) ops (r, W)).map (·.outcome)
    let s := final (Channel.performReader e) ops (r, W)
    outcomes = (ByteCursor.perform o e.limits).outcomes ops start ∧
      s.1.position = ((ByteCursor.perform o e.limits).final ops start).position ∧
      (ByteCursor.HasRooms e.limits ops →
        outcomes = (ByteCursor.ideal o).outcomes ops start ∧
        s.1.position = ((ByteCursor.ideal o).final ops start).position) ∧
      V.holds s.2.store = V.holds W.store := by
  intro start outcomes s
  have hreader : r = { object := o, position := p.toNat } := by
    unfold opened at hr
    split at hr
    · cases hr
    · exact (Except.ok.inj hr).symm
  have hs : Shows V o x (V.holds W.store) (r, W) start := ⟨hreader, rfl, rfl⟩
  obtain ⟨houtcomes, hs'⟩ := (simulates e hV hx hsize).run ops (fun _ _ => rfl) hs
  have hposition := position_of_shows hs'
  refine ⟨houtcomes, hposition, fun hrooms => ?_, hs'.holds⟩
  obtain ⟨hsame, hsame'⟩ := hrooms.eq_ideal (o := o) start
  exact ⟨houtcomes.trans hsame, hposition.trans (congrArg ByteCursor.position hsame')⟩

/-- A store in memory whose streams deliver one byte and two bytes at a time, in turn. -/
def slowStreams : Channel.Setting Store.MemoryStore Store.Stream where
  backend := Store.memoryBackend .none fun n => { chunk := some (n % 2 + 1) }
  limits := { readSize := 2 }

def fiveBytes : World Store.MemoryStore where
  store := { contents := ({} : Store.Contents).put ⟨"bucket", "key"⟩ { data := ⟨#[1, 2, 3, 4, 5]⟩ } }

/-- Reads of all kinds, and an operation that a reader does not have. -/
def rangeOperations : List Operation :=
  [.readInto ⟨#[9, 9, 9]⟩, .seek (-2) 1, .read none, .tell, .size]

theorem refines_cursor_over_slow_streams :
    let ts := turns (Channel.performReader slowStreams) rangeOperations
      ({ object := ⟨"bucket", "key"⟩, position := 1 }, fiveBytes)
    ts.map (·.outcome) =
        (ByteCursor.ideal ⟨"bucket", "key"⟩).outcomes rangeOperations
          { content := [1, 2, 3, 4, 5], position := 1 } ∧
      ts.map (·.outcome) =
        [.ok (.filled ⟨#[2, 3, 4]⟩ (.ok 3)), .ok (.count 2), .ok (.bytes ⟨#[3, 4, 5]⟩),
          .ok (.count 5), .error (.ofChannel .sizeUnknown)] := by
  have hV := Store.memoryView_delivers (fun n => { chunk := some (n % 2 + 1) })
    (fun n => ⟨by simp, rfl, rfl, rfl⟩) ⟨"bucket", "key"⟩
  have hx : ((Store.memoryView .none fun n => { chunk := some (n % 2 + 1) }).holds
      fiveBytes.store).object ⟨"bucket", "key"⟩ = some { data := ⟨#[1, 2, 3, 4, 5]⟩ } := rfl
  have hrooms : ByteCursor.HasRooms slowStreams.limits rangeOperations := by decide
  obtain ⟨-, -, hideal, -⟩ :=
    refines_cursor slowStreams _ hV hx (by decide) (p := 1) rfl rangeOperations
  exact ⟨(hideal hrooms).1, (hideal hrooms).1.trans rfl⟩

/-- A read of more bytes than a number can count is refused, although there are bytes to give. -/
theorem oversized_read_refused :
    let ops := [.read (some 9223372036854775808), .tell]
    (turns (Channel.performReader slowStreams) ops
        ({ object := ⟨"bucket", "key"⟩, position := 1 }, fiveBytes)).map (·.outcome) =
      [.error .outOfRange, .ok (.count 1)] ∧
    (ByteCursor.ideal ⟨"bucket", "key"⟩).outcomes ops
        { content := [1, 2, 3, 4, 5], position := 1 } =
      [.ok (.bytes ⟨#[2, 3, 4, 5]⟩), .ok (.count 5)] :=
  ⟨rfl, rfl⟩

end Reader

end ObjectChannel
