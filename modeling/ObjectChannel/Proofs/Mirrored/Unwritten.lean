/-
What a session without the permission to write does to its object. The mirror file stays as it was
opened, whatever is done with it, and so closing sends back no other bytes than opening fetched.

An object that is to be emptied is the exception. Nothing is fetched for it, so that closing sends
back a mirror that has been empty from the start (`unwritten_object`, `emptied_by_reading`).
-/
import ObjectChannel.Proofs.Mirrored.Existence
import ObjectChannel.Proofs.Session.History

namespace ObjectChannel

/-! ## Files that may not be written -/

namespace ByteFile

variable {p : Platform} {os : OpenOptions} {most : Option Nat}

/-- An operation that goes well on a file that may not be written moves the cursor, at most. -/
theorem step_content (hw : os.isWritable = false) {op : Operation} {f f' : ByteFile} {a : Answer}
    (h : f.step os most op = .ok (a, f')) : f'.content = f.content := by
  cases op with
  | read size =>
    simp only [step, read] at h
    split at h <;> cases h
    rfl
  | readInto buffer =>
    simp only [step, readInto] at h
    split at h <;> cases h <;> rfl
  | write data => cases data <;> simp [step, write, hw] at h
  | truncate size => simp [step, truncate, hw] at h
  | seek offset whence =>
    cases hs : f.seek offset whence <;> simp only [step, hs] at h <;> cases h
    rfl
  | setPosition pos =>
    cases hs : f.seek pos 0 <;> simp only [step, hs] at h <;> cases h
    rfl
  | position | tell | size | readable | writable =>
    cases h
    rfl
  | _ => cases h

theorem turn_content (hw : os.isWritable = false) (op : Operation) (f : ByteFile) :
    (turn os most op f).2.content = f.content := by
  unfold turn
  cases h : f.step os most op with
  | ok r => exact step_content hw h
  | error e => rfl

theorem perform_content (hw : os.isWritable = false) (op : Operation) (f : ByteFile) :
    (perform p os op f).2.content = f.content := by
  unfold perform
  cases p.verdict os f op with
  | served most => exact turn_content hw op f
  | refused | placed => rfl

end ByteFile

namespace Mirrored

open ChannelAction

variable {σ τ : Type} {e : Channel.Setting σ τ} {V : e.backend.View} {o : ObjectId}
  {os : OpenOptions} {content : Bytes} {s : Mirrored × World σ}

/-! ## Channels that may not write -/

/-- The channel is for the object and the options, and as long as it is open its mirror file has the
content that it was opened with. -/
structure AsOpened (o : ObjectId) (os : OpenOptions) (content : Bytes) (c : Mirrored) : Prop where
  object : c.object = o
  options : c.options = os
  isFor : c.closed = false → c.file.IsFor os
  content : c.closed = false → c.file.content = content

theorem AsOpened.ofContent (hw : os.isWritable = false) (q : OpenRequest) (m : Mirror) :
    AsOpened o os content (ofContent o q os m content) where
  object := rfl
  options := rfl
  isFor _ := LocalFile.opened_isFor os content
  content _ := LocalFile.opened_content fun ht => by simp [OpenOptions.truncates, hw] at ht

/-- It stays so in every operation, closing included. -/
theorem AsOpened.perform (hw : os.isWritable = false) (h : AsOpened o os content s.1)
    (op : Operation) : AsOpened o os content (Channel.performMirrored e op s).2.1 := by
  obtain ⟨c, W⟩ := s
  cases hop : op.isClosing with
  | false =>
    obtain ⟨l, t, M, hs⟩ := performMirrored_retouched (b := e) hop (c, W)
    have hfile (hc : c.closed = false) : l.IsFor os ∧ l.content = content := by
      obtain ⟨hfor, hbytes⟩ := performMirrored_file e hop (W := W) hc (h.isFor hc)
      have hcontent := ByteFile.perform_content (p := e.limits.platform) hw op c.file.bytes
      rw [← hbytes, hs] at hcontent
      rw [hs] at hfor
      exact ⟨hfor, (Bytes.ext_toList hcontent).trans (h.content hc)⟩
    rw [hs]
    exact ⟨h.object, h.options, fun hc => (hfile hc).1, fun hc => (hfile hc).2⟩
  | true =>
    obtain ⟨es, r, hm, -⟩ := performMirrored_close e hop (c, W)
    obtain ⟨reply, hc⟩ := hm.channel
    rw [hc]
    exact ⟨h.object, h.options, Bool.noConfusion, Bool.noConfusion⟩

theorem AsOpened.final (hw : os.isWritable = false) (h : AsOpened o os content s.1)
    (ops : List Operation) :
    AsOpened o os content (final (Channel.performMirrored e) ops s).1 := by
  induction ops generalizing s with
  | nil => exact h
  | cons op ops ih => exact ih (h.perform hw op)

/-- What closing makes of the object is the content that the channel was opened with. -/
theorem AsOpened.settles (hd : os.has .deleteOnClose = false) {c : Mirrored}
    (h : AsOpened o os content c) {x : Option Bytes} (hx : c.settles = some x) :
    x = some content := by
  have hkeep : c.options.has .deleteOnClose = false := by rw [h.options]; exact hd
  cases hc : c.closed with
  | true => simp [Mirrored.settles, hc] at hx
  | false =>
    cases hr : c.options.isReadOnly with
    | true => simp [Mirrored.settles, hc, hkeep, hr] at hx
    | false =>
      have hsome : c.settles = some (some c.file.content) := by
        simp [Mirrored.settles, hc, hkeep, hr]
      rw [hsome, h.content hc] at hx
      exact (Option.some.inj hx).symm

/-- An operation leaves the object's bytes as they were, or replaces them with that content. -/
theorem AsOpened.bytes_perform (V : e.backend.View) (hd : os.has .deleteOnClose = false)
    (h : AsOpened o os content s.1) (op : Operation) :
    (V.holds (Channel.performMirrored e op s).2.2.store).bytes o = (V.holds s.2.store).bytes o ∨
      (V.holds (Channel.performMirrored e op s).2.2.store).bytes o = some content := by
  cases hop : op.isClosing with
  | false =>
    obtain ⟨l, t, M, hs⟩ := performMirrored_retouched (b := e) hop s
    rw [hs]
    exact .inl rfl
  | true =>
    obtain ⟨es, r, hm, -, hr⟩ := performMirrored_close e hop s
    obtain ⟨x, -, hx, hholds⟩ | ⟨-, hholds⟩ := hm.settled V hr
    · refine .inr ?_
      rw [hholds, Holdings.bytes_setObject, h.object, if_pos rfl]
      exact h.settles hd hx
    · exact .inl (by rw [hholds])

theorem AsOpened.bytes_final (V : e.backend.View) (hw : os.isWritable = false)
    (hd : os.has .deleteOnClose = false) (h : AsOpened o os content s.1)
    (hs : (V.holds s.2.store).bytes o = some content) (ops : List Operation) :
    (V.holds (ChannelAction.final (Channel.performMirrored e) ops s).2.store).bytes o =
      some content := by
  induction ops generalizing s with
  | nil => exact hs
  | cons op ops ih =>
    refine ih (h.perform hw op) ?_
    obtain hsame | hsent := h.bytes_perform V hd op
    · exact hsame.trans hs
    · exact hsent

/-! ## Sessions -/

/-- **A session that may neither write nor delete leaves its object's bytes as they were**, whatever
its operations and whatever fails in it, where the object was not to be emptied. With an object that
was, the first close that goes well leaves it empty. -/
theorem unwritten_object (e : Channel.Setting σ τ) (V : e.backend.View) {honest : τ → Prop}
    (hV : V.GivesAll honest) {o : ObjectId} {q : OpenRequest} {os : OpenOptions} {m : Mirrored}
    {W W' : World σ} {data : Bytes} (hos : OpenOptions.ofGiven q.options = .ok os)
    (hw : os.isWritable = false) (hd : os.has .deleteOnClose = false)
    (hdata : (V.holds W.store).bytes o = some data)
    (hopen : Mirrored.open e.backend e.limits o q W = (.ok m, W')) :
    (os.has .truncateExisting = false → ∀ ops,
      (V.holds (final (Channel.performMirrored e) ops (m, W')).2.store).bytes o = some data) ∧
    (os.has .truncateExisting = true → ∀ ops closing, closing.isClosing = true →
      let s := final (Channel.performMirrored e) ops (m, W')
      let t := Channel.performMirrored e closing s
      s.1.closed = false → t.1 = .ok .none → (V.holds t.2.2.store).bytes o = some .empty) := by
  obtain ⟨hm, -, hholds⟩ := open_ok_of_fetch hopen hos fun _ _ _ _ fetch hr => fetch.gives hV hr
  have hstart : AsOpened o os ((V.holds W.store).original o os) m := by
    rw [hm]
    exact .ofContent hw q _
  refine ⟨fun ht ops => ?_, fun ht ops closing hclosing => ?_⟩
  · have horiginal : (V.holds W.store).original o os = data := by
      have hobject : ((V.holds W.store).object o).map (·.data) = some data := hdata
      simp [Holdings.original, ht, hobject]
    rw [horiginal] at hstart
    refine hstart.bytes_final V hw hd ?_ ops
    rw [hholds]
    exact hdata
  · intro s t hopened hr
    have horiginal : (V.holds W.store).original o os = .empty := if_pos ht
    rw [horiginal] at hstart
    have hs : AsOpened o os .empty s.1 := hstart.final hw ops
    obtain ⟨es, r, hmove, hout, hrun⟩ := performMirrored_close e hclosing s
    -- such a channel was not opened for reading only, so that closing it makes something of the object
    have hwrites : s.1.settles = some (some .empty) := by
      have hreads : os.isReadOnly = false := by
        cases hread : os.isReadOnly with
        | false => rfl
        | true => simp [OpenOptions.has_of_isReadOnly hread] at ht
      simp [Mirrored.settles, hopened, hs.options, hd, hreads, hs.content hopened]
    have hok : r = .ok () := by
      cases r with
      | ok => rfl
      | error f => cases hout.symm.trans hr
    obtain ⟨x, -, hx, hafter⟩ | ⟨hnone, -⟩ := hmove.settled V hrun
    · rw [show t.2.2.store = _ from rfl, hafter, Holdings.bytes_setObject, hs.object, if_pos rfl]
      exact hs.settles hd hx
    · rw [hnone hok] at hwrites
      cases hwrites

/-- Options that may not write, with which closing sends the mirror back all the same. -/
def readOrMake : OpenRequest where
  options := some [.option .read, .option .create]

/-- Operations that try to change the mirror, and a close. -/
def attempts : List Operation :=
  [.write (some ⟨#[7]⟩), .truncate (some 0), .read none, .setPosition 2, .close]

theorem unwritten_object_of_attempts :
    ∃ m W, Mirrored.open inMemory.backend inMemory.limits ⟨"bucket", "key"⟩ readOrMake oneObject =
        (.ok m, W) ∧
      ((final (Channel.performMirrored inMemory) attempts (m, W)).2.store.contents.object?
        ⟨"bucket", "key"⟩).map (·.data) = some ⟨#[1, 2, 3]⟩ := by
  let V := Store.memoryView .none fun _ => {}
  have hgives : V.GivesAll fun t => t.habit.chunk ≠ some 0 :=
    Store.memoryView_givesAll .none _ fun _ => by decide
  have hdelivers : V.Delivers ⟨"bucket", "key"⟩ :=
    Store.memoryView_delivers _ (fun _ => ⟨by decide, rfl, rfl, rfl⟩) _
  have hos : OpenOptions.ofGiven readOrMake.options = .ok ⟨[.read, .create]⟩ := rfl
  obtain ⟨m, W, hopen⟩ : ∃ m W, Mirrored.open inMemory.backend inMemory.limits ⟨"bucket", "key"⟩
      readOrMake oneObject = (.ok m, W) := open_of_existing hdelivers hos rfl rfl
  have hdata : (V.holds oneObject.store).bytes ⟨"bucket", "key"⟩ = some ⟨#[1, 2, 3]⟩ := rfl
  obtain ⟨hkept, -⟩ := unwritten_object inMemory V hgives hos (by decide) (by decide) hdata hopen
  exact ⟨m, W, hopen, hkept (by decide) attempts⟩

/-- Reading an object that is to be emptied empties it, although the channel may neither write nor
delete: no request fails, and closing sends the empty mirror back. -/
theorem emptied_by_reading :
    (oneObject.store.contents.object? ⟨"bucket", "key"⟩).map (·.data) = some ⟨#[1, 2, 3]⟩ ∧
    (match Mirrored.open inMemory.backend inMemory.limits ⟨"bucket", "key"⟩
        { options := some [.option .read, .option .truncateExisting] } oneObject with
      | (.ok m, W) =>
        let s := final (Channel.performMirrored inMemory) [.read none] (m, W)
        let t := Channel.performMirrored inMemory .close s
        some (m.options.isWritable, m.options.has .deleteOnClose, t.1.isOk,
          (t.2.2.store.contents.object? ⟨"bucket", "key"⟩).map (·.data))
      | (.error _, _) => none) = some (false, false, true, some .empty) := by
  decide +kernel

end Mirrored

end ObjectChannel
