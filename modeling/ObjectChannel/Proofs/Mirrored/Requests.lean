/-
Which requests a session with a mirrored channel makes, whatever comes of them. Opening looks: for the
object, and then at it. The operations on the channel ask for nothing. The first close makes the one
request that the options and the size of the mirror call for, or none, and no later one makes any.

So at most one request of a session changes anything, and where closing fails nothing has changed
(`call_discipline`).
-/
import ObjectChannel.Proofs.Mirrored.Existence

namespace ObjectChannel

/-- The request, where it was one. -/
def Exchange.request? {τ : Type} : Exchange τ → Option Request
  | .call r _ => some r
  | .closing .. => none

/-- The requests among what passed, in order. -/
def Exchange.requests {τ : Type} (es : List (Exchange τ)) : List Request := es.filterMap (·.request?)

/-- How many requests among what passed do more than look. -/
def Exchange.changes {τ : Type} (es : List (Exchange τ)) : Nat := es.countP fun x => !x.isLook

namespace Mirrored

open ChannelAction
open Exchange (requests changes)

variable {σ τ : Type} {b : Backend σ τ} {limits : Limits} {names : ContentType.NameTypes}
  {o : ObjectId} {q : OpenRequest} {os : OpenOptions} {M M' : Mirrors} {es : List (Exchange τ)}

/-! ## Opening -/

/-- Nothing is asked for an object that is to be emptied. -/
theorem ProbeMove.of_truncate {r : Except Failure Bool} (h : ProbeMove o os es r)
    (ht : os.has .truncateExisting = true) : es = [] ∧ r = .ok false := by
  cases h with
  | unasked => exact ⟨rfl, rfl⟩
  | answered h | failed h => simp [ht] at h

theorem ProbeMove.requests {r : Except Failure Bool} (h : ProbeMove o os es r) :
    (requests es).Sublist [.head o] := by
  cases h with
  | unasked => exact List.nil_sublist _
  | answered | failed => exact List.Sublist.refl _

theorem FetchMove.requests {chunk : Nat} {r : Except Failure Bytes} (h : FetchMove b chunk o es r) :
    requests es = [.get o none] := by
  cases h <;> rfl

/-- Opening probes at most once, and then fetches at most once. -/
theorem OpenMove.requests {r : Except Failure Mirrored} (h : OpenMove b limits o q M es r M') :
    (requests es).Sublist [.head o, .get o none] := by
  have hprobe : List.Sublist [Request.head o] [.head o, .get o none] := by simp
  cases h with
  | badOptions => exact List.nil_sublist _
  | unfit _ probe | noDirectory _ probe | made _ probe => exact probe.requests.trans hprobe
  | fetched _ probe _ fetch | notFetched _ probe _ fetch =>
    have hsplit (es es' : List (Exchange τ)) :
        Exchange.requests (es ++ es') = Exchange.requests es ++ Exchange.requests es' :=
      List.filterMap_append
    rw [hsplit, fetch.requests]
    exact probe.requests.append (List.Sublist.refl [Request.get o none])

/-- Opening asks for nothing where the object is to be emptied. -/
theorem OpenMove.of_truncate {r : Except Failure Mirrored} (h : OpenMove b limits o q M es r M')
    (hos : OpenOptions.ofGiven q.options = .ok os) (ht : os.has .truncateExisting = true) :
    es = [] := by
  cases h with
  | badOptions hbad => simp [hos] at hbad
  | unfit hos' probe | noDirectory hos' probe | made hos' probe =>
    obtain rfl := Except.ok.inj (hos.symm.trans hos')
    exact (probe.of_truncate ht).1
  | fetched hos' probe | notFetched hos' probe =>
    obtain rfl := Except.ok.inj (hos.symm.trans hos')
    cases (probe.of_truncate ht).2

/-- A channel that was opened is one for the object and the options, still open and with no reply to
keep; its mirror file is there. -/
theorem OpenMove.opened {c : Mirrored} (h : OpenMove b limits o q M es (.ok c) M') :
    c.object = o ∧ OpenOptions.ofGiven q.options = .ok c.options ∧ c.closed = false ∧
      c.putResult = none ∧ M'.present.contains c.mirror = true := by
  generalize hr : Except.ok c = r at h
  cases h with
  | badOptions | unfit | noDirectory | notFetched => cases hr
  | made hos | fetched hos =>
    cases hr
    refine ⟨rfl, hos, rfl, rfl, ?_⟩
    simp [Mirrors.create, ofContent]

/-! ## Operations -/

theorem Touched.trans {s s' s'' : Mirrored × World σ} (h : Touched s s') (h' : Touched s' s'') :
    Touched s s'' := by
  obtain ⟨l, t, rfl⟩ := h
  obtain ⟨l', t', rfl⟩ := h'
  exact ⟨l', t', rfl⟩

theorem Retouched.trans {s s' s'' : Mirrored × World σ} (h : Retouched s s')
    (h' : Retouched s' s'') : Retouched s s'' := by
  obtain ⟨l, t, M, rfl⟩ := h
  obtain ⟨l', t', M', rfl⟩ := h'
  exact ⟨l', t', M', rfl⟩

/-- Operations of the channel's own leave the world alone until it is closed. -/
theorem final_touched (e : Channel.Setting σ τ) {ops : List Operation}
    (hops : ∀ op ∈ ops, op.isClosing = false ∧ op.sparesMirror = true) (s : Mirrored × World σ) :
    Touched s (final (Channel.performMirrored e) ops s) := by
  induction ops generalizing s with
  | nil => exact .refl s
  | cons op ops ih =>
    obtain ⟨hop, hspares⟩ := hops op (.head _)
    have hfirst := performMirrored_touched (b := e) hop hspares s
    exact hfirst.trans (ih (fun op' hop' => hops op' (.tail _ hop')) _)

/-- Once the channel is closed, no operation does anything to the store. -/
theorem final_of_closed (e : Channel.Setting σ τ) (ops : List Operation) {s : Mirrored × World σ}
    (hs : s.1.closed = true) : Retouched s (final (Channel.performMirrored e) ops s) := by
  induction ops generalizing s with
  | nil => exact .refl s
  | cons op ops ih =>
    have hfirst : Retouched s (Channel.performMirrored e op s).2 := by
      cases hop : op.isClosing with
      | false => exact performMirrored_retouched hop s
      | true =>
        rw [performMirrored_of_closed e hop hs]
        exact .refl s
    refine hfirst.trans (ih ?_)
    obtain ⟨l, t, M, h⟩ := hfirst
    rw [h]
    exact hs

/-! ## Closing -/

/-- What is asked of the store when a channel is closed: a deletion, nothing for one that was opened
for reading only, and otherwise that it takes the mirror, in parallel above the threshold. -/
structure Closes (limits : Limits) (names : ContentType.NameTypes) (path : String) (c : Mirrored)
    (es : List (Exchange τ)) : Prop where
  deletes : c.options.has .deleteOnClose = true → requests es = [.delete c.object]
  reads : c.options.isReadOnly = true → es = []
  stores : c.options.has .deleteOnClose = false → c.options.isReadOnly = false →
    c.file.content.size ≤ limits.parallelThreshold →
    requests es =
      [.put c.object c.file.content c.file.content.size (c.syncInfo names)]
  uploads : c.options.has .deleteOnClose = false → c.options.isReadOnly = false →
    limits.parallelThreshold < c.file.content.size →
    requests es =
      [.uploadFile c.object path c.file.content limits.parallelWorkers (c.syncInfo names)]
  /-- Nothing else passes. -/
  length_le : es.length ≤ 1

variable {c c' : Mirrored} {r : Except Failure Unit}

theorem SyncMove.closes (h : SyncMove limits names c M es r c')
    (hm : M.present.contains c.mirror = true) (hd : c.options.has .deleteOnClose = false)
    (hr : c.options.isReadOnly = false) : Closes limits names (M.path c.mirror) c es := by
  have hdeletes : c.options.has .deleteOnClose ≠ true := by simp [hd]
  have hreads : c.options.isReadOnly ≠ true := by simp [hr]
  cases h with
  | lost hl => exact absurd (hm.symm.trans hl) Bool.noConfusion
  | stored _ hs | notStored _ hs =>
    exact ⟨fun h => absurd h hdeletes, fun h => absurd h hreads, fun _ _ _ => rfl,
      fun _ _ h => absurd h (by omega), Nat.le_refl _⟩
  | uploaded _ hs =>
    exact ⟨fun h => absurd h hdeletes, fun h => absurd h hreads, fun _ _ h => absurd h (by omega),
      fun _ _ _ => rfl, Nat.le_refl _⟩

theorem CloseMove.closes (h : CloseMove limits names c M es r c' M') (hc : c.closed = false)
    (hm : M.present.contains c.mirror = true) : Closes limits names (M.path c.mirror) c es := by
  cases h with
  | again hc' => simp [hc] at hc'
  | deleted _ hd =>
    have hreads : c.options.isReadOnly ≠ true := by
      intro hr
      simp [OpenOptions.has_of_isReadOnly hr] at hd
    exact ⟨fun _ => rfl, fun h => absurd h hreads, fun h => by simp [hd] at h,
      fun h => by simp [hd] at h, Nat.le_refl _⟩
  | unchanged _ hd hr =>
    exact ⟨fun h => by simp [hd] at h, fun _ => rfl, fun _ h => by simp [hr] at h,
      fun _ h => by simp [hr] at h, Nat.zero_le _⟩
  | synced _ hd hr sync =>
    obtain ⟨hdeletes, hreads, hstores, huploads, hlength⟩ := sync.closes hm hd hr
    exact ⟨hdeletes, hreads, hstores, huploads, hlength⟩

theorem SyncMove.length_le (h : SyncMove limits names c M es r c') : es.length ≤ 1 := by
  cases h with
  | lost => exact Nat.zero_le _
  | stored | notStored | uploaded => exact Nat.le_refl _

theorem CloseMove.length_le (h : CloseMove limits names c M es r c' M') : es.length ≤ 1 := by
  cases h with
  | again | unchanged => exact Nat.zero_le _
  | deleted => exact Nat.le_refl _
  | synced _ _ _ sync => exact sync.length_le

/-- The reply that is kept is that to the mirror's being stored with one request. -/
theorem CloseMove.putResult (h : CloseMove limits names c M es r c' M') (hc : c.closed = false)
    (hnone : c.putResult = none) (reply : PutResult) :
    c'.putResult = some reply ↔
      ∃ o body n info, Exchange.call (.put o body n info) (.ok reply) ∈ es := by
  cases h with
  | again hc' => simp [hc] at hc'
  | deleted | unchanged => simp [hnone]
  | synced _ _ _ sync =>
    cases sync with
    | lost | notStored | uploaded => simp [hnone]
    | stored _ _ reply' =>
      constructor
      · intro h
        obtain rfl := Option.some.inj h
        exact ⟨_, _, _, _, .head _⟩
      · rintro ⟨o, body, n, info, h⟩
        cases List.mem_singleton.mp h
        rfl

/-! ## Sessions -/

/-- What is recorded of any operations on a channel changes the store at most once, and not at all on
a channel that is closed. -/
theorem changes_le (e : Channel.Setting σ τ) (ops : List Operation)
    (s : Mirrored × World (Recorded σ τ)) :
    ∃ es, (final (Channel.performMirrored e.recorded) ops s).2.store.log = s.2.store.log ++ es ∧
      changes es ≤ if s.1.closed then 0 else 1 := by
  induction ops generalizing s with
  | nil => exact ⟨[], by simp, Nat.zero_le _⟩
  | cons op ops ih =>
    obtain ⟨es', hlog', hchanges'⟩ := ih (Channel.performMirrored e.recorded op s).2
    cases hop : op.isClosing with
    | false =>
      obtain ⟨l, t, M, h⟩ := performMirrored_retouched (b := e.recorded) hop s
      rw [h] at hlog' hchanges'
      exact ⟨es', by rw [final_cons, h]; exact hlog', hchanges'⟩
    | true =>
      obtain ⟨c, W⟩ := s
      cases hc : c.closed with
      | true =>
        rw [performMirrored_of_closed e.recorded hop hc] at hlog' hchanges'
        refine ⟨es', ?_, hc ▸ hchanges'⟩
        rw [final_cons, performMirrored_of_closed e.recorded hop hc]
        exact hlog'
      | false =>
        obtain ⟨es, r, hmove, -, hrun⟩ := performMirrored_close e.recorded hop (c, W)
        obtain ⟨reply, hclosed⟩ := hmove.channel
        rw [hclosed] at hchanges'
        have hrest : changes es' = 0 := Nat.le_zero.mp hchanges'
        have happend : changes (es ++ es') = changes es + changes es' := List.countP_append
        refine ⟨es ++ es', ?_, ?_⟩
        · rw [final_cons, hlog', hrun.of_recorded.2, List.append_assoc]
        · rw [happend, hrest, Nat.add_zero]
          exact Nat.le_trans List.countP_le_length hmove.length_le

/-- **A session asks the store for what it has to, and no more.** Opening looks, with at most one probe
and at most one request for the content, and with none for an object that is to be emptied. Then come
operations that ask for nothing, the first close with its one request or none, and whatever follows
makes none. The reply that is kept is that to storing the mirror. A session whose close fails has
changed nothing, and over any operations there is at most one request that could change anything. -/
theorem call_discipline (e : Channel.Setting σ τ) (V : e.backend.View) (o : ObjectId)
    (q : OpenRequest) (W : World (Recorded σ τ)) :
    ∃ es, (Mirrored.open e.recorded.backend e.limits o q W).2.store.log = W.store.log ++ es ∧
      (∀ x ∈ es, x.isLook = true) ∧ (requests es).Sublist [.head o, .get o none] ∧
      (∀ os, OpenOptions.ofGiven q.options = .ok os → os.has .truncateExisting = true → es = []) ∧
      ∀ m W', Mirrored.open e.recorded.backend e.limits o q W = (.ok m, W') →
        (∀ ops, ∃ es', (final (Channel.performMirrored e.recorded) ops (m, W')).2.store.log =
            W'.store.log ++ es' ∧ changes es' ≤ 1) ∧
        ∀ ops, (∀ op ∈ ops, op.isClosing = false ∧ op.sparesMirror = true) →
          let s := final (Channel.performMirrored e.recorded) ops (m, W')
          s.2 = W' ∧ s.1.object = o ∧ OpenOptions.ofGiven q.options = .ok s.1.options ∧
          ∀ closing, closing.isClosing = true → ∀ ops',
            let t := Channel.performMirrored e.recorded closing s
            let u := final (Channel.performMirrored e.recorded) ops' t.2
            ∃ es', t.2.2.store.log = W'.store.log ++ es' ∧
              Closes e.limits e.names (W'.mirrors.path m.mirror) s.1 es' ∧
              u.2.store = t.2.2.store ∧
              (∀ reply, u.1.putResult = some reply ↔
                ∃ o body n info, Exchange.call (.put o body n info) (.ok reply) ∈ es') ∧
              ∀ f, t.1 = .error f → V.holds u.2.store.store = V.holds W.store.store := by
  rcases hopen : Mirrored.open e.recorded.backend e.limits o q W with ⟨r, W₁⟩
  obtain ⟨es, hmove, hrun⟩ := open_move hopen
  refine ⟨es, hrun.of_recorded.2, hmove.looks, hmove.requests, fun os hos ht =>
    hmove.of_truncate hos ht, fun m W' hm => ?_⟩
  obtain ⟨rfl, rfl⟩ := Prod.mk.inj hm
  obtain ⟨hobject, hoptions, hclosed, hreply, hmirror⟩ := hmove.opened
  refine ⟨fun ops => ?_, fun ops hops => ?_⟩
  · obtain ⟨es', hlog, hchanges⟩ := changes_le e ops (m, W₁)
    rw [hclosed] at hchanges
    exact ⟨es', hlog, hchanges⟩
  · intro s
    obtain ⟨l, t, hs⟩ := final_touched e.recorded hops (m, W₁)
    have hs : s = ({ m with file := l, lastModified := t }, W₁) := hs
    refine ⟨by rw [hs], by rw [hs]; exact hobject, by rw [hs]; exact hoptions, ?_⟩
    intro closing hclosing ops' t u
    obtain ⟨es', r', hclose, hout, hrun'⟩ := performMirrored_close e.recorded hclosing s
    have hopened : s.1.closed = false := by rw [hs]; exact hclosed
    have hthere : s.2.mirrors.present.contains s.1.mirror = true := by rw [hs]; exact hmirror
    have hnone : s.1.putResult = none := by rw [hs]; exact hreply
    obtain ⟨reply, ht⟩ := hclose.channel
    have htclosed : t.2.1.closed = true := by
      rw [show t.2.1 = _ from ht]
    obtain ⟨l', t', M', hu⟩ := final_of_closed e.recorded ops' htclosed
    have hu : u = ({ t.2.1 with file := l', lastModified := t' },
      { t.2.2 with mirrors := M' }) := hu
    have hcloses := hclose.closes hopened hthere
    have hlog : t.2.2.store.log = s.2.store.log ++ es' := hrun'.of_recorded.2
    have hworld : s.2 = W₁ := by rw [hs]
    have hmirror' : s.1.mirror = m.mirror := by rw [hs]
    rw [hworld] at hlog hcloses
    rw [hmirror'] at hcloses
    refine ⟨es', hlog, hcloses, by rw [hu], fun reply => ?_, fun f hf => ?_⟩
    · rw [hu]
      exact hclose.putResult hopened hnone reply
    · -- the close that failed, and before it the opening, left the holdings as they were
      have hopening := V.recorded.holds_of_looks hrun hmove.looks
      obtain ⟨x, rfl, -, -⟩ | ⟨-, hsame⟩ := hclose.settled V.recorded hrun'
      · cases hout.symm.trans hf
      · rw [hworld] at hsame
        rw [hu]
        exact hsame.trans hopening

def madeIfMissing : OpenRequest where
  options := some [.option .write, .option .create]

theorem call_discipline_of_new_object :
    ∃ m W, Mirrored.open inMemory.recorded.backend inMemory.limits ⟨"bucket", "key"⟩ madeIfMissing
        Store.emptyWorld = (.ok m, W) ∧
      let s := final (Channel.performMirrored inMemory.recorded) [.write (some ⟨#[7]⟩)] (m, W)
      let t := Channel.performMirrored inMemory.recorded .close s
      s.2.store.log.length = 1 ∧
      ∃ es, t.2.2.store.log = s.2.store.log ++ es ∧
        requests es = [.put ⟨"bucket", "key"⟩ ⟨#[7]⟩ 1 (s.1.syncInfo inMemory.names)] := by
  obtain ⟨-, -, -, -, -, hsession⟩ := call_discipline inMemory (Store.memoryView .none fun _ => {})
    ⟨"bucket", "key"⟩ madeIfMissing Store.emptyWorld
  refine ⟨_, _, rfl, ?_⟩
  intro s t
  obtain ⟨-, huse⟩ := hsession _ _ rfl
  obtain ⟨-, -, -, hclose⟩ := huse [.write (some ⟨#[7]⟩)] (by decide)
  obtain ⟨es, hlog, hcloses, -⟩ := hclose .close rfl []
  exact ⟨rfl, es, hlog, hcloses.stores rfl rfl (by decide)⟩

end Mirrored

end ObjectChannel
