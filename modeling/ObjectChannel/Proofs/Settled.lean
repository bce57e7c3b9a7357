/-
What writers and readers do to the world besides asking the store for things: they write to the log, and
they count. A writer counts what has come of a request once it is answered, and a reader counts the
bytes that it has fetched. Whatever is the same again as soon as a request has been counted is the same
after every operation of a writer, and, if counting fetched bytes makes no difference to it either, after
every operation of a reader.
-/
import ObjectChannel.Proofs.Looks

namespace ObjectChannel

variable {σ τ α γ : Type}

/-- The counters with an exchange added to them: what the store has taken, and aborts whatever came of
them. -/
def Exchange.addedTo (m : Metrics) : Exchange τ → Metrics
  | .call (.uploadPart _ _ _ body _ _) (.ok _) =>
    { m with partsUploaded := m.partsUploaded + 1, multipartBytes := m.multipartBytes + body.size }
  | .call (.put _ _ length _) (.ok _) => { m with putBytes := m.putBytes + length }
  | .call (.uploadFile _ _ content _ _) (.ok _) =>
    { m with parallelBytes := m.parallelBytes + content.size }
  | .call (.abortUpload _ _) _ => { m with aborts := m.aborts + 1 }
  | _ => m

/-- This of the world is the same again once a request has been answered and counted. -/
structure Backend.Settles (b : Backend σ τ) (f : World σ → γ) : Prop where
  logged : ∀ W e, f (W.logged e) = f W
  answered : ∀ W r,
    f ((W.answered b r).counted fun m => Exchange.addedTo m (.call r (b.call r W.store).1)) = f W
  closed : ∀ W t, f { W with store := (b.close t W.store).2 } = f W

namespace Backend.Settles

variable {b : Backend σ τ} {f : World σ → γ}

/-- A request that does not count is done with once it is answered. -/
theorem of_uncounted (hf : b.Settles f) {W : World σ} {r : Request}
    (hr : ∀ m, Exchange.addedTo m (.call r (b.call r W.store).1) = m) : f (W.answered b r) = f W := by
  have h := hf.answered W r
  simp only [hr] at h
  exact h

theorem request_keeps (hf : b.Settles f) {r : Request}
    (hr : ∀ m x, Exchange.addedTo (τ := τ) m (.call r x) = m) : (World.request b r).Keeps f := by
  intro W
  rw [World.request_apply]
  exact hf.of_uncounted fun m => hr m _

theorem log_keeps (hf : b.Settles f) (e : Log.Event) : (World.log e).Keeps f := fun W => hf.logged W e

end Backend.Settles

/-- Counting and being answered do not get in each other's way. -/
theorem World.counted_answered (W : World σ) (b : Backend σ τ) (r : Request) (g : Metrics → Metrics) :
    (W.counted g).answered b r = (W.answered b r).counted g := by
  unfold World.answered
  cases b.remark r <;> rfl

namespace ChannelAction

variable {χ : Type} {f : World σ → γ}

theorem this_keeps : (this : ChannelAction χ σ χ).Keeps (f ·.2) := fun _ => rfl

theorem change_keeps (g : χ → χ) : (change g : ChannelAction χ σ Unit).Keeps (f ·.2) := fun _ => rfl

theorem world_keeps {x : Action (World σ) α} (h : x.Keeps f) :
    (world x : ChannelAction χ σ α).Keeps (f ·.2) := fun s => h s.2

end ChannelAction

open ChannelAction
open ObjectChannel.Action (Keeps)

/-- A request that is counted, if it goes well, by what comes after it. -/
theorem Backend.Settles.counted_keeps {χ : Type} {b : Backend σ τ} {f : World σ → γ} (hf : b.Settles f)
    {r : Request} {handle : Failure → ChannelAction χ σ (r.Reply τ)}
    {k : r.Reply τ → ChannelAction χ σ α}
    (hr : ∀ m e, Exchange.addedTo (τ := τ) m (.call r (.error e)) = m)
    (hk : ∀ x s, f (k x s).2.2 = f (s.2.counted fun m => Exchange.addedTo m (.call r (.ok x))))
    (hh : ∀ e, (handle e).Keeps (f ·.2)) (hn : ∀ e s, (handle e s).1.isOk = false) :
    Keeps (f ·.2) ((world (World.request b r)).recover handle >>= k) := by
  refine .recover_bind (fun {s x s'} h => ?_) (fun {s e s'} h => ?_) hh hn <;>
    simp only [world_apply, World.request_apply, Prod.mk.injEq] at h <;> obtain ⟨hc, rfl⟩ := h
  · refine (hk x _).trans ?_
    rw [← hc]
    exact hf.answered _ _
  · exact hf.of_uncounted fun m => hc ▸ hr m e

variable {b : Backend σ τ} {f : World σ → γ} (hf : b.Settles f) {limits : Limits}

include hf

namespace Writer

theorem abortUpload_keeps : (abortUpload b).Keeps (f ·.2) := by
  rintro ⟨w, W⟩
  cases hid : w.uploadId with
  | none =>
    simp only [abortUpload, Action.bind_apply, this_apply, hid]
    rfl
  | some id =>
    -- the abort is counted before it is asked for
    have habort := hf.answered (W.logged (.abortingUpload id w.object)) (.abortUpload w.object id)
    simp only [hf.logged, Exchange.addedTo, ← World.counted_answered] at habort
    simp only [abortUpload, Action.bind_apply, this_apply, hid, world_apply, World.log_apply,
      World.count_apply]
    refine (Keeps.ensuring_eq (f := fun s : Writer × World σ => f s.2) (change_keeps _) _).trans ?_
    refine (Keeps.recover_eq (fun e => world_keeps (hf.log_keeps _)) _).trans ?_
    simp only [world_apply, World.request_apply]
    exact habort

theorem beginUpload_keeps : (beginUpload b).Keeps (f ·.2) := by
  refine .bind this_keeps fun w => .bind (world_keeps (hf.log_keeps _)) fun _ => ?_
  refine .bind (Keeps.recover (world_keeps (hf.request_keeps fun _ _ => rfl)) fun e => ?_) fun _ => ?_
  · exact .bind (change_keeps _) fun _ => .fail _
  · exact change_keeps _

theorem sendPart_keeps (id : String) (block : Bytes) (isLast : Bool) :
    (sendPart b id block isLast).Keeps (f ·.2) := by
  refine .bind this_keeps fun w => .bind (world_keeps (hf.log_keeps _)) fun _ => ?_
  refine hf.counted_keeps (fun _ _ => rfl) (fun _ _ => hf.logged _ _) (fun e => ?_) fun e => ?_
  · exact .bind (change_keeps _) fun _ => (abortUpload_keeps hf).bind fun _ => .fail _
  · exact Action.not_ok_of_bind fun _ => Action.not_ok_of_bind fun _ _ => rfl

theorem uploadPart_keeps (block : Bytes) (isLast : Bool) : (uploadPart b block isLast).Keeps (f ·.2) := by
  refine .bind this_keeps fun w => ?_
  extract_lets rest
  have hrest : ∀ u, (rest u).Keeps (f ·.2) := by
    refine fun _ => .bind this_keeps fun w' => ?_
    split
    · exact sendPart_keeps hf _ _ _
    · exact fun _ => rfl
  split
  · exact .bind (beginUpload_keeps hf) hrest
  · exact hrest ()

theorem completeUpload_keeps (id : String) : (completeUpload b id).Keeps (f ·.2) := by
  refine .bind this_keeps fun w => .bind (world_keeps (hf.log_keeps _)) fun _ => ?_
  refine .bind (Keeps.recover (world_keeps (hf.request_keeps fun _ _ => rfl)) fun e => ?_) fun _ => ?_
  · exact (abortUpload_keeps hf).bind fun _ => .fail _
  · exact .bind (world_keeps (hf.log_keeps _)) fun _ => change_keeps _

theorem putObject_keeps : (putObject b).Keeps (f ·.2) := by
  refine .bind this_keeps fun w => ?_
  exact hf.counted_keeps (fun _ _ => rfl) (fun _ _ => rfl) (fun _ => .fail _) fun _ _ => rfl

theorem write_keeps (limits : Limits) (data : Option Bytes) : (write b limits data).Keeps (f ·.2) := by
  refine .bind this_keeps fun w => ?_
  split
  · exact .fail _
  split
  · exact .fail _
  split
  · exact Keeps.pure _
  split
  · exact .bind (change_keeps _) fun _ => (abortUpload_keeps hf).bind fun _ => .fail _
  split
  · exact .bind (change_keeps _) fun _ => .bind (uploadPart_keeps hf _ _) fun _ => Keeps.pure _
  · exact .bind (change_keeps _) fun _ => Keeps.pure _

theorem close_keeps : (close b limits).Keeps (f ·.2) := by
  refine .bind this_keeps fun w => ?_
  split
  · exact fun _ => rfl
  · refine Keeps.ensuring ?_ (change_keeps _)
    split
    · exact putObject_keeps hf
    · extract_lets complete
      split
      · exact .bind (uploadPart_keeps hf _ _) fun _ => completeUpload_keeps hf _
      · exact completeUpload_keeps hf _

theorem discard_keeps : (discard b).Keeps (f ·.2) := by
  refine .bind this_keeps fun w => ?_
  split
  · exact fun _ => rfl
  · exact .bind (change_keeps _) fun _ => abortUpload_keeps hf

/-- **Every operation of a writer keeps what settles.** -/
theorem performWriter_keeps (names : ContentType.NameTypes) (op : Operation) :
    (Channel.performWriter ⟨b, limits, names⟩ op).Keeps (f ·.2) := by
  have hleave (failed : Bool) : (leave b limits failed).Keeps (f ·.2) := by
    cases failed with
    | true => exact discard_keeps hf
    | false => exact close_keeps hf
  cases op with
  | write data => exact (write_keeps hf limits data).bind fun _ => .pure _
  | close => exact (close_keeps hf).bind fun _ => .pure _
  | discard => exact (discard_keeps hf).bind fun _ => .pure _
  | leave failed => exact (hleave failed).bind fun _ => .pure _
  | position =>
    refine .bind this_keeps fun w => ?_
    split
    · exact .pure _
    · exact .fail _
  | _ => exact fun _ => rfl

end Writer

namespace Reader

theorem fetch_keeps (capacity : Nat) : (fetch b capacity).Keeps (f ·.2) := by
  rintro ⟨r, W⟩
  have hget := hf.of_uncounted (W := W.logged (.readingRange r.position (r.position + capacity) r.object))
    (r := .get r.object (some (r.position, r.position + capacity))) fun _ => rfl
  rw [hf.logged] at hget
  simp only [fetch, Action.bind_apply, World.log_apply, World.request_apply]
  rcases (b.call (.get r.object (some (r.position, r.position + capacity))) _).1 with e | t
  · exact hget
  · exact (hf.closed _ _).trans hget

variable (hcount : ∀ W n, f (W.counted fun m => { m with rangeBytes := m.rangeBytes + n }) = f W)

include hcount

theorem fetchUpTo_keeps (capacity : Nat) : (fetchUpTo b capacity).Keeps (f ·.2) := by
  refine .bind this_keeps fun r => ?_
  split
  · exact Keeps.pure _
  split
  · exact Keeps.pure _
  refine .bind (fetch_keeps hf capacity) fun got => ?_
  split
  · exact Keeps.pure _
  · exact .bind (fun s => hcount s.2 _) fun _ => Keeps.pure _

theorem readChunk_keeps (capacity : Nat) : (readChunk b capacity).Keeps (f ·.2) :=
  .bind (fetchUpTo_keeps hf hcount capacity) fun _ => .bind (Keeps.ofExcept _) fun _ => Keeps.pure _

theorem readOn_keeps (capacity : Nat) (got : Bytes) (s : Reader × World σ)
    {r : Except Failure Bytes × (Reader × World σ)} (h : b.readOn capacity got s = some r) :
    f r.2.2 = f s.2 := by
  refine Backend.readOn.partial_correctness b capacity (fun _ s r => f r.2.2 = f s.2) ?_ got s r h
  intro rest ih got s r h
  have hchunk := readChunk_keeps hf hcount capacity s
  rcases hc : readChunk b capacity s with ⟨e | chunk, s'⟩ <;> rw [hc] at h hchunk
  · cases h
    exact hchunk
  · by_cases hempty : chunk.isEmpty = true
    · simp only [hempty, ite_true] at h
      cases h
      exact hchunk
    · simp only [hempty, Bool.false_eq_true, ite_false] at h
      exact (ih _ _ _ h).trans hchunk

theorem read_keeps (limits : Limits) (size : Option Int) : (read b limits size).Keeps (f ·.2) := by
  have hrest : (readRest b limits).Keeps (f ·.2) := by
    refine .bind (Keeps.ofExcept _) fun capacity s => ?_
    cases h : b.readOn capacity .empty s with
    | none => rfl
    | some r => exact readOn_keeps hf hcount capacity .empty s h
  unfold read
  split
  · exact hrest
  split
  · exact hrest
  · exact .bind (Keeps.ofExcept _) fun _ => readChunk_keeps hf hcount _

omit hf hcount in
theorem seek_keeps (offset whence : Int) : (seek offset whence : Step σ Nat).Keeps (f ·.2) := by
  refine .bind (.bind this_keeps fun r => ?_) fun _ => .bind this_keeps fun r => ?_
  · split
    · exact .fail _
    · exact fun _ => rfl
  · split
    · extract_lets target
      split
      · exact .fail _
      · exact .bind (change_keeps _) fun _ => .pure _
    · exact .fail _

omit hf hcount in
theorem tell_keeps : (tell : Step σ Nat).Keeps (f ·.2) := by
  refine .bind (.bind this_keeps fun r => ?_) fun _ => .bind this_keeps fun r => .pure _
  split
  · exact .fail _
  · exact fun _ => rfl

/-- **Every operation of a reader keeps what settles**, unless counting fetched bytes changes it. -/
theorem performReader_keeps (names : ContentType.NameTypes) (op : Operation) :
    (Channel.performReader ⟨b, limits, names⟩ op).Keeps (f ·.2) := by
  cases op with
  | read size => exact (read_keeps hf hcount limits size).bind fun _ => .pure _
  | readInto buffer =>
    exact ((fetchUpTo_keeps hf hcount buffer.size).bind fun _ => .pure _).bind fun _ => .pure _
  | seek offset whence => exact (seek_keeps offset whence).bind fun _ => .pure _
  | setPosition p => exact (seek_keeps p 0).bind fun _ => .pure _
  | position | tell => exact tell_keeps.bind fun _ => .pure _
  | _ => exact fun _ => rfl

end Reader

end ObjectChannel
