/-
How a reader reports what goes wrong with the ranges that it fetches, also where a read fetches one
after the other.
-/
import ObjectChannel.Proofs.Report
import ObjectChannel.Proofs.Run

namespace ObjectChannel

variable {σ τ : Type} {b : Backend σ τ} {limits : Limits}

namespace Reader

open ChannelAction

/-- An action of a reader reports what goes wrong in it; `tells` is how its outcome does so. -/
def Reports (b : Backend σ τ) (limits : Limits) {α : Type} (x : Step (Recorded σ τ) α)
    (tells : Except Failure α → Option Failure) : Prop :=
  ∀ s, b.ReportsBetween limits s.2.store (x s).2.2.store (tells (x s).1)

variable {α β : Type}

/-- Where something fails the rest is not done, and otherwise it is the rest that tells. -/
theorem Reports.bind {x : Step (Recorded σ τ) α} {f : α → Step (Recorded σ τ) β}
    {tells : Except Failure β → Option Failure} (hx : Reports b limits x failureOf)
    (herror : ∀ e, tells (.error e) = some e) (hf : ∀ a, Reports b limits (f a) tells) :
    Reports b limits (x >>= f) tells := by
  intro s
  have h := hx s
  rw [Action.bind_apply]
  rcases hs : x s with ⟨e | a, s'⟩ <;> rw [hs] at h
  · show b.ReportsBetween limits _ _ (tells (.error e))
    rw [herror]
    exact h
  · exact h.trans (hf a s')

/-- What leaves the store alone may fail in any way. -/
theorem Reports.of_store_eq {x : Step (Recorded σ τ) α} {tells : Except Failure α → Option Failure}
    (h : ∀ s, (x s).2.2.store = s.2.store) : Reports b limits x tells := by
  intro s
  rw [h s]
  exact .refl _ _

/-- What follows leaves the store alone, and tells the same. -/
theorem Reports.telling {x : Step (Recorded σ τ) α} {f : α → Step (Recorded σ τ) β}
    {tells : Except Failure α → Option Failure} {tells' : Except Failure β → Option Failure}
    (hx : Reports b limits x tells) (herror : ∀ e, tells' (.error e) = tells (.error e))
    (hstore : ∀ a s, (f a s).2.2.store = s.2.store) (htells : ∀ a s, tells' (f a s).1 = tells (.ok a)) :
    Reports b limits (x >>= f) tells' := by
  intro s
  have h := hx s
  rw [Action.bind_apply]
  rcases hs : x s with ⟨e | a, s'⟩ <;> rw [hs] at h
  · rw [herror]
    exact h
  · rw [hstore, htells]
    exact h

/-- How a fetch tells that it failed. -/
def failureOfFetch (r : Except Failure Fetched) : Option Failure := failureOf (r.bind (·.outcome))

theorem report_eq (o : ObjectId) (closing stream : Except Failure Unit) :
    report o (ending closing stream) =
      (do closing; stream : Except Failure Unit).mapError (Failure.raisedIn .readRange o) := by
  cases closing with
  | error e => rfl
  | ok u => cases stream <;> rfl

theorem fetch_reports (capacity : Nat) :
    Reports b limits (fetch b.recorded capacity) failureOfFetch := by
  rintro ⟨r, W⟩
  simp only [fetch, Action.bind_apply, World.log_apply, World.request_apply, World.logged_store]
  generalize hrange : some (r.position, r.position + capacity) = range
  rcases hc : b.call (.get r.object range) W.store.store with ⟨x, s⟩
  have hcall : b.recorded.call (.get r.object range) W.store =
      (x, ⟨s, W.store.log ++ [.call (.get r.object range) x]⟩) := by
    simp only [Backend.recorded, hc]
  generalize hW : World.answered _ b.recorded _ = W₁
  have hlog : W₁.store.log = W.store.log ++ [.call (.get r.object range) x] := by
    rw [← hW, World.answered_store, World.logged_store, hcall]
  simp only [hcall]
  cases x with
  | error e =>
    have hreports : b.Reports limits [.call (.get r.object range) (.error e)] _ :=
      .refused e .readRange r.object rfl
    exact ⟨_, hlog, hreports⟩
  | ok t =>
    have hbreaks (e : Failure) (h : b.Breaks (limits.asked range) 0 t e) :
        (drain b.recorded t capacity .empty).ending = .error e := by
      subst hrange
      simpa using h.recorded.drain .empty
    have hreports (t' : τ) (closed : Except Failure Unit) :
        b.Reports limits [.call (.get r.object range) (.ok t), .closing t' closed] _ :=
      .stream .readRange hbreaks
    simp only [← report_eq] at hreports
    refine ⟨_, ?_, hreports (drain b.recorded t capacity .empty).stream
      (b.recorded.close (drain b.recorded t capacity .empty).stream W₁.store).1⟩
    show W₁.store.log ++ [_] = _
    rw [hlog, List.append_assoc]
    rfl

theorem fetchUpTo_reports (capacity : Nat) :
    Reports b limits (fetchUpTo b.recorded capacity) failureOfFetch := by
  refine Reports.bind (.of_store_eq fun _ => rfl) (fun _ => rfl) fun r => ?_
  split
  · exact .of_store_eq fun _ => rfl
  split
  · exact .of_store_eq fun _ => rfl
  refine (fetch_reports capacity).telling (fun _ => rfl) (fun got s => ?_) fun got s => ?_
  · cases got.outcome <;> rfl
  · cases got.outcome <;> rfl

theorem readInto_reports (buffer : Bytes) :
    Reports b limits (readInto b.recorded buffer) fun r => failureOf (r.bind (·.outcome)) := by
  refine (fetchUpTo_reports buffer.size).telling (fun _ => rfl) (fun _ _ => rfl) fun got s => ?_
  show failureOf (got.outcome.map _) = failureOf got.outcome
  cases got.outcome <;> rfl

theorem readChunk_reports (capacity : Nat) :
    Reports b limits (readChunk b.recorded capacity) failureOf := by
  refine (fetchUpTo_reports capacity).telling (fun _ => rfl) (fun got s => ?_) fun got s => ?_
  · cases got.outcome <;> rfl
  · show _ = failureOf got.outcome
    cases got.outcome <;> rfl

theorem readOn_reports (capacity : Nat) (got : Bytes) (s : Reader × World (Recorded σ τ))
    {r : Except Failure Bytes × (Reader × World (Recorded σ τ))}
    (h : b.recorded.readOn capacity got s = some r) :
    b.ReportsBetween limits s.2.store r.2.2.store (failureOf r.1) := by
  -- the chunks before a failing one went well, or there had been no more
  refine Backend.readOn.partial_correctness b.recorded capacity
    (fun _ s r => b.ReportsBetween limits s.2.store r.2.2.store (failureOf r.1)) ?_ got s r h
  intro rest ih got s r h
  have hchunk : b.ReportsBetween limits _ _ _ := readChunk_reports capacity s
  rcases hc : readChunk b.recorded capacity s with ⟨e | chunk, s'⟩
  · rw [hc] at h hchunk
    cases h
    exact hchunk
  · rw [hc] at h hchunk
    by_cases hempty : chunk.isEmpty = true
    · simp only [hempty, ite_true] at h
      cases h
      exact hchunk
    · simp only [hempty, Bool.false_eq_true, ite_false] at h
      exact hchunk.trans (ih _ _ _ h)

theorem readRest_reports : Reports b limits (readRest b.recorded limits) failureOf := by
  refine Reports.bind (.of_store_eq fun _ => rfl) (fun _ => rfl) fun capacity s => ?_
  cases h : b.recorded.readOn capacity .empty s with
  | none => simpa [h] using Backend.ReportsBetween.refl s.2.store _
  | some r => simpa [h] using readOn_reports capacity .empty s h

theorem read_reports (size : Option Int) : Reports b limits (read b.recorded limits size) failureOf := by
  unfold read
  split
  · exact readRest_reports
  split
  · exact readRest_reports
  · exact Reports.bind (.of_store_eq fun _ => rfl) (fun _ => rfl) fun capacity =>
      readChunk_reports capacity

theorem requireOpen_reports :
    Reports b limits (requireOpen : Step (Recorded σ τ) Unit) failureOf := by
  refine Reports.bind (.of_store_eq fun _ => rfl) (fun _ => rfl) fun r => ?_
  split <;> exact .of_store_eq fun _ => rfl

theorem seek_reports (offset whence : Int) :
    Reports b limits (seek offset whence : Step (Recorded σ τ) Nat) failureOf := by
  refine requireOpen_reports.bind (fun _ => rfl) fun _ => ?_
  refine Reports.bind (.of_store_eq fun _ => rfl) (fun _ => rfl) fun r => ?_
  split
  · extract_lets target
    split <;> exact .of_store_eq fun _ => rfl
  · exact .of_store_eq fun _ => rfl

theorem tell_reports : Reports b limits (tell : Step (Recorded σ τ) Nat) failureOf :=
  requireOpen_reports.bind (fun _ => rfl) fun _ => .of_store_eq fun _ => rfl

/-- **What goes wrong in an operation of a reader is what it reports.** -/
theorem performReader_reports (e : Channel.Setting σ τ) (op : Operation) :
    Reports e.backend e.limits (Channel.performReader e.recorded op) failureIn := by
  cases op with
  | read size => exact (read_reports size).telling (fun _ => rfl) (fun _ _ => rfl) fun _ _ => rfl
  | readInto buffer =>
    exact (readInto_reports buffer).telling (fun _ => rfl) (fun _ _ => rfl) fun _ _ => rfl
  | seek offset whence =>
    exact (seek_reports offset whence).telling (fun _ => rfl) (fun _ _ => rfl) fun _ _ => rfl
  | setPosition p => exact (seek_reports p 0).telling (fun _ => rfl) (fun _ _ => rfl) fun _ _ => rfl
  | position | tell => exact tell_reports.telling (fun _ => rfl) (fun _ _ => rfl) fun _ _ => rfl
  | _ => exact .of_store_eq fun _ => rfl

end Reader

end ObjectChannel
