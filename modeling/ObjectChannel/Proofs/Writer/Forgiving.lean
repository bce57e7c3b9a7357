/-
What it changes that an abort fails: the log, and nothing else. A writer is compared with itself over a
backend that lets every abort pass. Whatever else fails on the way, both come to the same outcome and
leave the same writer; the log of the first has one warning more for every abort that failed.
-/
import ObjectChannel.Proofs.Report
import ObjectChannel.Proofs.Run

namespace ObjectChannel

variable {σ τ : Type}

/-- A record of this is shown as a warning. -/
def Log.Event.isWarning (e : Log.Event) : Bool := e.level == Log.Level.warning

namespace Exchange

/-- The same, but an abort did not fail, unless it was interrupted. -/
def forgiven : Exchange τ → Exchange τ
  | .call (.abortUpload o id) (.error e) =>
    .call (.abortUpload o id) (if e.isInterrupt then .error e else .ok ())
  | x => x

/-- The warning that is due: for an abort that failed. -/
def warning? : Exchange τ → Option Log.Event
  | .call (.abortUpload o id) (.error e) => if e.isInterrupt then none else some (.abortFailed id o e)
  | _ => none

theorem forgiven_call {r : Request} (hr : r.isAbort = false)
    (x : Except Failure (r.Reply τ)) : (call r x : Exchange τ).forgiven = call r x := by
  cases r with
  | abortUpload => cases hr
  | _ => rfl

theorem warning?_call {r : Request} (hr : r.isAbort = false)
    (x : Except Failure (r.Reply τ)) : (call r x : Exchange τ).warning? = none := by
  cases r with
  | abortUpload => cases hr
  | _ => rfl

theorem isWarning_of_warning? {x : Exchange τ} {e : Log.Event} (h : x.warning? = some e) :
    e.isWarning = true := by
  unfold warning? at h
  split at h
  · split at h <;> cases h
    rfl
  · cases h

end Exchange

namespace Backend

/-- The backend where every abort passes, unless it is interrupted. -/
def forgiving (b : Backend σ τ) : Backend σ τ where
  name := b.name
  call
    | .abortUpload o id => (b.call (.abortUpload o id)).recover fun _ => Action.pure ()
    | r => b.call r
  read := b.read
  close := b.close
  remark := b.remark

/-- The backend makes no remark that is a warning. -/
def RemarksQuietly (b : Backend σ τ) : Prop := ∀ r e, b.remark r = some e → e.isWarning = false

theorem forgiving_call (b : Backend σ τ) {r : Request} (hr : r.isAbort = false) (s : σ) :
    b.forgiving.call r s = b.call r s := by
  cases r with
  | abortUpload => cases hr
  | _ => rfl

end Backend

/-! ## Two worlds side by side -/

/-- Two worlds that came from the same one: what passed in the second is what passed in the first with
its aborts forgiven, and the first has a warning for each of these in its log besides. -/
structure World.Abreast (W₀ W W' : World (Recorded σ τ)) : Prop where
  store : W'.store.store = W.store.store
  mirrors : W'.mirrors = W.mirrors
  metrics : W'.metrics = W.metrics
  sockets : W'.sockets = W.sockets
  passed : ∃ es events, W.store.log = W₀.store.log ++ es ∧
    W'.store.log = W₀.store.log ++ es.map Exchange.forgiven ∧
    W.events.toList = W₀.events.toList ++ events ∧
    W'.events.toList = W₀.events.toList ++ events.filter (fun e => !e.isWarning) ∧
    events.filter (·.isWarning) = es.filterMap Exchange.warning?

namespace World.Abreast

variable {b : Backend σ τ} {W₀ W W' : World (Recorded σ τ)}

theorem refl (W : World (Recorded σ τ)) : Abreast W W W :=
  ⟨rfl, rfl, rfl, rfl, [], [], by simp⟩

theorem logged (h : Abreast W₀ W W') {e : Log.Event} (he : e.isWarning = false) :
    Abreast W₀ (W.logged e) (W'.logged e) := by
  obtain ⟨es, events, hlog, hlog', hevents, hevents', hwarnings⟩ := h.passed
  refine ⟨h.store, h.mirrors, h.metrics, h.sockets, es, events ++ [e], hlog, hlog', ?_, ?_, ?_⟩
  · simp [World.logged, hevents]
  · simp [World.logged, hevents', he]
  · simp [hwarnings, he]

theorem counted (h : Abreast W₀ W W') (f : Metrics → Metrics) :
    Abreast W₀ (W.counted f) (W'.counted f) :=
  ⟨h.store, h.mirrors, congrArg f h.metrics, h.sockets, h.passed⟩

/-- The remark on a request. -/
theorem remarked (h : Abreast W₀ W W') (hb : b.RemarksQuietly) (r : Request) :
    Abreast W₀ ((b.remark r).elim W W.logged) ((b.remark r).elim W' W'.logged) := by
  cases hr : b.remark r with
  | none => exact h
  | some e => exact h.logged (hb r e hr)

/-- Something has passed, and the warning that is due stands in the log. -/
theorem exchanged (h : Abreast W₀ W W') (x : Exchange τ) (s : σ) :
    Abreast W₀ { x.warning?.elim W W.logged with store := ⟨s, W.store.log ++ [x]⟩ }
      { W' with store := ⟨s, W'.store.log ++ [x.forgiven]⟩ } := by
  obtain ⟨es, events, hlog, hlog', hevents, hevents', hwarnings⟩ := h.passed
  cases hx : x.warning? with
  | none =>
    exact ⟨rfl, h.mirrors, h.metrics, h.sockets, es ++ [x], events, by simp [hlog], by simp [hlog'],
      hevents, hevents', by simp [hwarnings, hx]⟩
  | some e =>
    have he : e.isWarning = true := Exchange.isWarning_of_warning? hx
    exact ⟨rfl, h.mirrors, h.metrics, h.sockets, es ++ [x], events ++ [e], by simp [hlog],
      by simp [hlog'], by simp [World.logged, hevents], by simp [hevents', he],
      by simp [hwarnings, hx, he]⟩

/-- A request has been answered in both. -/
theorem answered (h : Abreast W₀ W W') (hb : b.RemarksQuietly) (r : Request)
    {x : Exchange τ} {s : σ} :
    Abreast W₀
      { x.warning?.elim ((b.remark r).elim W W.logged) ((b.remark r).elim W W.logged).logged with
        store := ⟨s, W.store.log ++ [x]⟩ }
      { (b.remark r).elim W' W'.logged with store := ⟨s, W'.store.log ++ [x.forgiven]⟩ } := by
  have hsame (V : World (Recorded σ τ)) : ((b.remark r).elim V V.logged).store = V.store := by
    cases b.remark r <;> rfl
  have hboth := (h.remarked hb r).exchanged x s
  rwa [hsame, hsame] at hboth

end World.Abreast

namespace Writer

open ChannelAction

variable {α β : Type}

/-- Two results that are the same, in worlds side by side. -/
structure Alongside (W₀ : World (Recorded σ τ))
    (r r' : Except Failure α × (Writer × World (Recorded σ τ))) : Prop where
  outcome : r'.1 = r.1
  writer : r'.2.1 = r.2.1
  world : World.Abreast W₀ r.2.2 r'.2.2

/-- From worlds side by side two steps have the same results, in worlds side by side. -/
def KeepsAlongside (x x' : Step (Recorded σ τ) α) : Prop :=
  ∀ W₀ W W' w, World.Abreast W₀ W W' → Alongside W₀ (x (w, W)) (x' (w, W'))

namespace KeepsAlongside

theorem pure (a : α) :
    KeepsAlongside (σ := σ) (τ := τ) (Pure.pure a) (Pure.pure a) := fun _ _ _ _ h => ⟨rfl, rfl, h⟩

theorem fail (e : Failure) :
    KeepsAlongside (σ := σ) (τ := τ) (α := α) (Action.fail e) (Action.fail e) :=
  fun _ _ _ _ h => ⟨rfl, rfl, h⟩

theorem this : KeepsAlongside (σ := σ) (τ := τ) ChannelAction.this ChannelAction.this :=
  fun _ _ _ _ h => ⟨rfl, rfl, h⟩

theorem change (f : Writer → Writer) :
    KeepsAlongside (σ := σ) (τ := τ) (ChannelAction.change f) (ChannelAction.change f) :=
  fun _ _ _ _ h => ⟨rfl, rfl, h⟩

theorem log {e : Log.Event} (he : e.isWarning = false) :
    KeepsAlongside (σ := σ) (τ := τ) (world (World.log e)) (world (World.log e)) :=
  fun _ _ _ _ h => ⟨rfl, rfl, h.logged he⟩

theorem count (f : Metrics → Metrics) :
    KeepsAlongside (σ := σ) (τ := τ) (world (World.count f)) (world (World.count f)) :=
  fun _ _ _ _ h => ⟨rfl, rfl, h.counted f⟩

theorem bind {x x' : Step (Recorded σ τ) α} {f f' : α → Step (Recorded σ τ) β}
    (hx : KeepsAlongside x x') (hf : ∀ a, KeepsAlongside (f a) (f' a)) :
    KeepsAlongside (x >>= f) (x' >>= f') := by
  intro W₀ W W' w h
  obtain ⟨houtcome, hwriter, hworld⟩ := hx _ _ _ w h
  rw [Action.bind_apply, Action.bind_apply]
  generalize x (w, W) = r, x' (w, W') = r' at houtcome hwriter hworld
  obtain ⟨r, w₁, W₁⟩ := r
  obtain ⟨r', w₁', W₁'⟩ := r'
  obtain rfl : r' = r := houtcome
  obtain rfl : w₁' = w₁ := hwriter
  cases r' with
  | ok a => exact hf a _ _ _ w₁' hworld
  | error e => exact ⟨rfl, rfl, hworld⟩

theorem recover {x x' : Step (Recorded σ τ) α} {handle handle' : Failure → Step (Recorded σ τ) α}
    (hx : KeepsAlongside x x') (hhandle : ∀ e, KeepsAlongside (handle e) (handle' e)) :
    KeepsAlongside (x.recover handle) (x'.recover handle') := by
  intro W₀ W W' w h
  obtain ⟨houtcome, hwriter, hworld⟩ := hx _ _ _ w h
  rw [Action.recover_apply, Action.recover_apply]
  generalize x (w, W) = r, x' (w, W') = r' at houtcome hwriter hworld
  obtain ⟨r, w₁, W₁⟩ := r
  obtain ⟨r', w₁', W₁'⟩ := r'
  obtain rfl : r' = r := houtcome
  obtain rfl : w₁' = w₁ := hwriter
  cases r' with
  | ok a => exact ⟨rfl, rfl, hworld⟩
  | error e =>
    cases he : e.isInterrupt with
    | true =>
      simp only [he, ite_true]
      exact ⟨rfl, rfl, hworld⟩
    | false =>
      simp only [he, Bool.false_eq_true, ite_false]
      exact hhandle e _ _ _ w₁' hworld

theorem ensuring_change {x x' : Step (Recorded σ τ) α} (hx : KeepsAlongside x x')
    (f : Writer → Writer) :
    KeepsAlongside (x.ensuring (ChannelAction.change f)) (x'.ensuring (ChannelAction.change f)) := by
  intro W₀ W W' w h
  obtain ⟨houtcome, hwriter, hworld⟩ := hx _ _ _ w h
  rw [Action.ensuring_eq, Action.ensuring_eq]
  exact ⟨houtcome, congrArg f hwriter, hworld⟩

theorem ite {c : Prop} [Decidable c] {x x' y y' : Step (Recorded σ τ) α}
    (hx : KeepsAlongside x x') (hy : KeepsAlongside y y') :
    KeepsAlongside (if c then x else y) (if c then x' else y') := by
  split
  · exact hx
  · exact hy

end KeepsAlongside

variable {b : Backend σ τ} (hb : b.RemarksQuietly)

include hb

theorem request_alongside {r : Request} (hr : r.isAbort = false) :
    KeepsAlongside (world (World.request b.recorded r))
      (world (World.request b.forgiving.recorded r)) := by
  intro W₀ W W' w h
  have hcall : b.forgiving.call r W'.store.store = b.call r W.store.store := by
    rw [h.store, b.forgiving_call hr]
  have hworld := h.answered hb r (x := .call r (b.call r W.store.store).1)
    (s := (b.call r W.store.store).2)
  rw [Exchange.warning?_call hr, Exchange.forgiven_call hr] at hworld
  simp only [world_apply, World.request_apply, World.answered, Backend.recorded, hcall]
  exact ⟨rfl, rfl, hworld⟩

/-- The one place where they differ: an abort that fails is noted, and one that passes is not. -/
theorem abort_alongside (o : ObjectId) (id : String) :
    KeepsAlongside
      (Action.recover (world (World.request b.recorded (.abortUpload o id)))
        fun e => world (World.log (.abortFailed id o e)))
      (Action.recover (world (World.request b.forgiving.recorded (.abortUpload o id)))
        fun e => world (World.log (.abortFailed id o e))) := by
  intro W₀ W W' w h
  rcases hc : b.call (.abortUpload o id) W.store.store with ⟨x, s⟩
  have hworld := h.answered hb (.abortUpload o id) (x := .call (.abortUpload o id) x) (s := s)
  have hforgiving : b.forgiving.call (.abortUpload o id) W'.store.store =
      (b.call (.abortUpload o id)).recover (fun _ => Action.pure ()) W.store.store := by
    rw [h.store]
    rfl
  rw [Action.recover_apply, hc] at hforgiving
  simp only [Action.recover_apply, world_apply, World.request_apply, World.answered, Backend.recorded,
    hforgiving, hc]
  cases x with
  | ok u => exact ⟨rfl, rfl, hworld⟩
  | error e =>
    simp only [Exchange.warning?, Exchange.forgiven] at hworld
    cases he : e.isInterrupt <;> simp only [he, Bool.false_eq_true, ite_true, ite_false] at hworld ⊢ <;>
      exact ⟨rfl, rfl, hworld⟩

theorem abortUpload_alongside :
    KeepsAlongside (abortUpload b.recorded) (abortUpload b.forgiving.recorded) := by
  refine KeepsAlongside.this.bind fun w => ?_
  split
  · exact .pure ()
  · exact (KeepsAlongside.log rfl).bind fun _ => (KeepsAlongside.count _).bind fun _ =>
      (abort_alongside hb _ _).ensuring_change _

theorem beginUpload_alongside :
    KeepsAlongside (beginUpload b.recorded) (beginUpload b.forgiving.recorded) := by
  refine KeepsAlongside.this.bind fun w => (KeepsAlongside.log rfl).bind fun _ => ?_
  refine KeepsAlongside.bind ?_ fun _ => .change _
  exact (request_alongside hb rfl).recover fun e => (KeepsAlongside.change _).bind fun _ => .fail _

theorem sendPart_alongside (id : String) (block : Bytes) (isLast : Bool) :
    KeepsAlongside (sendPart b.recorded id block isLast)
      (sendPart b.forgiving.recorded id block isLast) := by
  refine KeepsAlongside.this.bind fun w => (KeepsAlongside.log rfl).bind fun _ => ?_
  refine KeepsAlongside.bind ?_ fun part => (KeepsAlongside.change _).bind fun _ =>
    (KeepsAlongside.count _).bind fun _ => .log rfl
  exact (request_alongside hb rfl).recover fun e => (KeepsAlongside.change _).bind fun _ =>
    (abortUpload_alongside hb).bind fun _ => .fail _

theorem uploadPart_alongside (block : Bytes) (isLast : Bool) :
    KeepsAlongside (uploadPart b.recorded block isLast)
      (uploadPart b.forgiving.recorded block isLast) := by
  refine KeepsAlongside.this.bind fun w => .ite ((beginUpload_alongside hb).bind fun _ => ?_) ?_
  -- the part is sent where an upload is underway by then
  all_goals
    refine KeepsAlongside.this.bind fun w => ?_
    split
    · exact sendPart_alongside hb _ _ _
    · exact .pure _

theorem completeUpload_alongside (id : String) :
    KeepsAlongside (completeUpload b.recorded id) (completeUpload b.forgiving.recorded id) := by
  refine KeepsAlongside.this.bind fun w => (KeepsAlongside.log rfl).bind fun _ => ?_
  refine KeepsAlongside.bind ?_ fun _ => (KeepsAlongside.log rfl).bind fun _ => .change _
  exact (request_alongside hb rfl).recover fun e =>
    (abortUpload_alongside hb).bind fun _ => .fail _

theorem putObject_alongside :
    KeepsAlongside (putObject b.recorded) (putObject b.forgiving.recorded) := by
  refine KeepsAlongside.this.bind fun w => KeepsAlongside.bind ?_ fun _ => .count _
  exact (request_alongside hb rfl).recover fun e => .fail _

theorem write_alongside (limits : Limits) (data : Option Bytes) :
    KeepsAlongside (write b.recorded limits data) (write b.forgiving.recorded limits data) := by
  refine KeepsAlongside.this.bind fun w => .ite (.fail _) ?_
  cases data with
  | none => exact .fail _
  | some data =>
    refine .ite (.pure _) (.ite ?_ (.ite ?_ ?_))
    · exact (KeepsAlongside.change _).bind fun _ => (abortUpload_alongside hb).bind fun _ => .fail _
    · exact (KeepsAlongside.change _).bind fun _ =>
        (uploadPart_alongside hb _ _).bind fun _ => .pure _
    · exact (KeepsAlongside.change _).bind fun _ => .pure _

theorem close_alongside (limits : Limits) :
    KeepsAlongside (close b.recorded limits) (close b.forgiving.recorded limits) := by
  refine KeepsAlongside.this.bind fun w => .ite (.pure _) (KeepsAlongside.ensuring_change ?_ _)
  split
  · exact putObject_alongside hb
  · exact .ite ((uploadPart_alongside hb _ _).bind fun _ => completeUpload_alongside hb _)
      (completeUpload_alongside hb _)

theorem discard_alongside :
    KeepsAlongside (discard b.recorded) (discard b.forgiving.recorded) := by
  refine KeepsAlongside.this.bind fun w => .ite (.pure _) ?_
  exact (KeepsAlongside.change _).bind fun _ => abortUpload_alongside hb

omit hb in
/-- **An abort that fails changes the log alone**: whatever a writer does comes to the same as where
all aborts pass. -/
theorem performWriter_alongside {e : Channel.Setting σ τ} (hb : e.backend.RemarksQuietly)
    (op : Operation) :
    KeepsAlongside (Channel.performWriter e.recorded op)
      (Channel.performWriter { e with backend := e.backend.forgiving }.recorded op) := by
  cases op with
  | write data => exact (write_alongside hb e.limits data).bind fun _ => .pure _
  | close => exact (close_alongside hb e.limits).bind fun _ => .pure _
  | discard => exact (discard_alongside hb).bind fun _ => .pure _
  | leave failed =>
    refine KeepsAlongside.bind ?_ fun _ => .pure _
    exact .ite (discard_alongside hb) (close_alongside hb e.limits)
  | setPosition p => exact (KeepsAlongside.change _).bind fun _ => .pure _
  | position =>
    refine KeepsAlongside.this.bind fun w => ?_
    split
    · exact .pure _
    · exact .fail _
  | objectId | partCount | uploadId => exact KeepsAlongside.this.bind fun _ => .pure _
  | enter | readable | writable | seekable | setLastModified | readInto => exact .pure _
  | _ => exact .fail _

end Writer

end ObjectChannel
