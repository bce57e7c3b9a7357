/-
A session with a mirrored channel, from opening it to closing it: every operation comes to the same
as on a file of bytes that starts with what the store held, and closing sends the file's content
back with one request.
-/
import ObjectChannel.Proofs.MemoryView
import ObjectChannel.Proofs.Mirrored.File
import ObjectChannel.Proofs.Mirrored.Opening

namespace ObjectChannel.Mirrored

open ChannelAction

variable {σ τ : Type} {limits : Limits} {o : ObjectId}

/-! ## Operations -/

/-- The channel is as it was made, but for its mirror file, which is the given file of bytes; and
nothing has happened to the world. -/
def Stands (m : Mirrored) (W : World σ) (os : OpenOptions) (s : Mirrored × World σ)
    (f : ByteFile) : Prop :=
  ∃ l : LocalFile, s = ({ m with file := l }, W) ∧ l.IsFor os ∧ f = l.bytes

variable {m : Mirrored} {W : World σ} {p : Platform} {os : OpenOptions} {l : LocalFile} {α : Type}

theorem onFile_apply {g : LocalFile → Except Failure (α × LocalFile)} {c : Mirrored}
    (hc : c.closed = false) :
    onFile g (c, W) =
      match g c.file with
      | .ok (a, l) => (.ok a, ({ c with file := l }, W))
      | .error e => (.error e, (c, W)) := by
  have hopen : requireOpen (c, W) = (.ok (), (c, W)) := by
    simp only [requireOpen, Action.bind_apply, this_apply, hc]
    rfl
  simp only [onFile, Action.bind_apply, hopen, this_apply, Action.ofExcept_apply]
  cases g c.file <;> rfl

theorem onFile_of_closed {g : LocalFile → Except Failure (α × LocalFile)} {c : Mirrored}
    {W : World σ} (hc : c.closed = true) :
    onFile g (c, W) = (.error (.ofChannel (.closed c.object)), (c, W)) := by
  have hclosed : requireOpen (c, W) = (.error (.ofChannel (.closed c.object)), (c, W)) := by
    simp only [requireOpen, Action.bind_apply, this_apply, hc]
    rfl
  simp only [onFile, Action.bind_apply, hclosed]

/-- An operation on the mirror file comes to what it comes to on the file of bytes. -/
theorem onFile_stands {g : LocalFile → Except Failure (α × LocalFile)} {answer : α → Answer}
    {op : Operation} (hm : m.closed = false) (hl : l.IsFor os)
    (h : LocalFile.Agrees os answer l (g l) (ByteFile.perform p os op l.bytes)) :
    ((do return answer (← onFile g) : Step σ Answer) ({ m with file := l }, W)).1 =
        (ByteFile.perform p os op l.bytes).1 ∧
      Stands m W os ((do return answer (← onFile g) : Step σ Answer) ({ m with file := l }, W)).2
        (ByteFile.perform p os op l.bytes).2 := by
  simp only [Action.bind_apply, onFile_apply (c := { m with file := l }) hm]
  cases hg : g l with
  | error e =>
    rw [hg] at h
    rw [show ByteFile.perform p os op l.bytes = (.error e, l.bytes) from h]
    exact ⟨rfl, l, rfl, hl, rfl⟩
  | ok a =>
    rw [hg] at h
    obtain ⟨a, l'⟩ := a
    obtain ⟨hl', hperform⟩ := h
    rw [hperform]
    exact ⟨rfl, l', rfl, hl', rfl⟩

/-- An operation that only looks at the mirror file leaves it as it is. -/
theorem look_stands {g : LocalFile → α} {answer : α → Answer} {op : Operation}
    (hm : m.closed = false) (hl : l.IsFor os)
    (h : ByteFile.perform p os op l.bytes = (.ok (answer (g l)), l.bytes)) :
    ((do return answer (← onFile fun l => .ok (g l, l)) : Step σ Answer)
        ({ m with file := l }, W)).1 = (ByteFile.perform p os op l.bytes).1 ∧
      Stands m W os ((do return answer (← onFile fun l => .ok (g l, l)) : Step σ Answer)
        ({ m with file := l }, W)).2 (ByteFile.perform p os op l.bytes).2 :=
  onFile_stands hm hl ⟨hl, h⟩

theorem readInto_stands (e : Channel.Setting σ τ) (hm : m.closed = false) (hl : l.IsFor os)
    (buffer : Bytes) :
    (Channel.performMirrored e (.readInto buffer) ({ m with file := l }, W)).1 =
        (ByteFile.perform e.limits.platform os (.readInto buffer) l.bytes).1 ∧
      Stands m W os (Channel.performMirrored e (.readInto buffer) ({ m with file := l }, W)).2
        (ByteFile.perform e.limits.platform os (.readInto buffer) l.bytes).2 := by
  have hagrees := LocalFile.readInto_agrees (p := e.limits.platform) hl buffer
  simp only [Channel.performMirrored, Channel.fillFromMirror, readInto, Action.bind_apply,
    onFile_apply (c := { m with file := l }) hm]
  cases hread : l.readInto e.limits.platform buffer.size with
  | error e =>
    rw [hread] at hagrees
    rw [hagrees]
    exact ⟨rfl, l, rfl, hl, rfl⟩
  | ok a =>
    obtain ⟨data, l'⟩ := a
    rw [hread] at hagrees
    obtain ⟨hfilled, hl'⟩ := hagrees
    rw [hfilled]
    exact ⟨rfl, l', rfl, hl', rfl⟩

/-- Every operation on the mirror comes to the same on the file of bytes. -/
theorem simulates (e : Channel.Setting σ τ) (hm : m.closed = false) :
    Simulates (Channel.performMirrored e) (ByteFile.perform e.limits.platform os) Operation.isOnFile
      (Stands m W os) := by
  rintro op s f hop ⟨l, rfl, hl, rfl⟩
  cases op with
  | read size => exact onFile_stands hm hl (LocalFile.read_agrees hl size)
  | readInto buffer => exact readInto_stands e hm hl buffer
  | write data => exact onFile_stands hm hl (LocalFile.write_agrees hl data)
  | truncate size => exact onFile_stands hm hl (LocalFile.truncate_agrees hl size)
  | seek offset whence =>
    exact onFile_stands hm hl (LocalFile.seek_agrees hl (fun _ => rfl) rfl rfl)
  | setPosition p =>
    have hagrees : LocalFile.Agrees os (fun _ => .none) l (l.seek e.limits.platform p 0)
        (ByteFile.perform e.limits.platform os (.setPosition p) l.bytes) :=
      LocalFile.seek_agrees hl (fun h => absurd h (by decide)) rfl rfl
    exact onFile_stands hm hl hagrees
  | position | tell => exact look_stands (g := (·.cursor)) hm hl rfl
  | size =>
    refine look_stands (g := (·.content.size)) hm hl ?_
    rw [← l.length_bytes]
    rfl
  | readable => exact look_stands (g := (·.isReadable)) hm hl (by rw [hl.readable]; rfl)
  | writable => exact look_stands (g := (·.isWritable)) hm hl (by rw [hl.writable]; rfl)
  | _ => cases hop

/-- How the content of a mirror is sent back: with one request as far as the threshold, and in
parallel beyond it. -/
inductive SentBack (limits : Limits) (o : ObjectId) (content : Bytes) (path : String)
    (info : ObjectInfo) : Exchange τ → Prop where
  | stored (h : content.size ≤ limits.parallelThreshold) (x : Except Failure PutResult) :
    SentBack limits o content path info (.call (.put o content content.size info) x)
  | uploaded (h : limits.parallelThreshold < content.size) (x : Except Failure Unit) :
    SentBack limits o content path info
      (.call (.uploadFile o path content limits.parallelWorkers info) x)

/-- What is sent back well is the object from then on. -/
theorem SentBack.next {content : Bytes} {path : String} {info : ObjectInfo} {x : Exchange τ}
    (h : SentBack limits o content path info x) (hx : x.succeeded = true) (hold : Holdings)
    (keep : ObjectInfo → Bytes → StoredObject) :
    x.IsOrderly ∧ hold.next keep x = hold.setObject o (some (keep info content)) := by
  cases h with
  | stored h x =>
    cases x with
    | ok reply => exact ⟨rfl, rfl⟩
    | error e => cases hx
  | uploaded h x =>
    cases x with
    | ok reply => exact ⟨trivial, rfl⟩
    | error e => cases hx

/-- Closing a channel that is to bring its object up to date makes just one request. -/
theorem CloseMove.sentBack {names : ContentType.NameTypes} {c c' : Mirrored} {M M' : Mirrors}
    {es : List (Exchange τ)} {r : Except Failure Unit} (h : CloseMove limits names c M es r c' M')
    (hc : c.closed = false) (hd : c.options.has .deleteOnClose = false)
    (hr : c.options.isReadOnly = false) (hm : M.present.contains c.mirror = true) :
    ∃ x, es = [x] ∧
      SentBack limits c.object c.file.content (M.path c.mirror) (c.syncInfo names) x ∧
      (x.succeeded = true → r = .ok ()) := by
  cases h with
  | again h => simp [h] at hc
  | deleted h hd' => simp [hd'] at hd
  | unchanged h hd' hr' => simp [hr'] at hr
  | synced h hd' hr' sync =>
    cases sync with
    | lost hl => exact absurd (hm.symm.trans hl) (by simp)
    | stored hm' hs reply => exact ⟨_, rfl, .stored hs _, fun _ => rfl⟩
    | notStored hm' hs e => exact ⟨_, rfl, .stored hs _, fun hx => by cases hx⟩
    | uploaded hm' hs x =>
      refine ⟨_, rfl, .uploaded hs x, fun hx => ?_⟩
      cases x with
      | ok => rfl
      | error e => cases hx

def readWrite : OpenRequest where
  options := some [.option .read, .option .write]

end ObjectChannel.Mirrored
