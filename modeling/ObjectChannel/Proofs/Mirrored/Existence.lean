/-
What opening a mirrored channel says about the object being there. Unless the object is to be
emptied, opening looks for it first: a new object must not be there, and one that is not to be made
has to be. Where that does not hold, opening fails and nothing has changed.

So a session that was opened for a new object leaves alone whatever was there when it was opened
(`existence_contract`). With an object that is to be emptied, nothing is looked for, and what was
there is replaced on closing (`emptied_without_probe`).
-/
import ObjectChannel.Proofs.Mirrored.Effect

namespace ObjectChannel.Mirrored

open ChannelAction

variable {σ τ α : Type} {b : Backend σ τ} {V : b.View} {limits : Limits} {o : ObjectId}
  {q : OpenRequest} {os : OpenOptions} {W : World σ}

/-! ## Opening that is refused -/

/-- The outcome of something that is done once a probe for the object has been answered. -/
def afterProbe (b : Backend σ τ) (o : ObjectId) (s : σ) (r : Except Failure α) :
    Except Failure α := do
  let _ ← (b.call (.head o) s).1.mapError (Failure.raisedIn .probe o)
  r

theorem afterProbe_error (b : Backend σ τ) (o : ObjectId) (s : σ) (e : Failure) :
    ∃ e', afterProbe b o s (.error e : Except Failure α) = .error e' := by
  unfold afterProbe
  cases (b.call (.head o) s).1 <;> exact ⟨_, rfl⟩

/-- A probe that is asked for goes by whether the object is there, and changes nothing. -/
theorem ProbeMove.verdict_eq {es : List (Exchange τ)} {r : Except Failure Bool} {s s' : σ}
    (h : ProbeMove o os es r) (hr : b.Runs s es s') (V : b.View)
    (ht : os.has .truncateExisting = false) :
    V.holds s' = V.holds s ∧
      r = afterProbe b o s (verdict o os ((V.holds s).object o).isSome) := by
  cases h with
  | unasked ht' => simp [ht] at ht'
  | answered _ x =>
    cases hr with
    | call hc rest =>
      cases rest
      refine ⟨V.call_ok (r := .head o) trivial hc, ?_⟩
      rw [afterProbe, hc, ← V.found_head hc]
      rfl
  | failed _ e =>
    cases hr with
    | call hc rest =>
      cases rest
      refine ⟨V.call_error hc, ?_⟩
      rw [afterProbe, hc]
      rfl

/-- Opening fails: with the given fault, or with the failure of the probe. Nothing has changed, and no
mirror file is left. -/
structure Refused (V : b.View) (limits : Limits) (o : ObjectId) (q : OpenRequest) (W : World σ)
    (fault : ChannelFault) : Prop where
  outcome : (Mirrored.open b limits o q W).1 = afterProbe b o W.store (.error (.ofChannel fault))
  holds : V.holds (Mirrored.open b limits o q W).2.store = V.holds W.store
  mirrors : (Mirrored.open b limits o q W).2.mirrors = W.mirrors

theorem refused_of_verdict (hos : OpenOptions.ofGiven q.options = .ok os)
    (ht : os.has .truncateExisting = false) {fault : ChannelFault}
    (hv : verdict o os ((V.holds W.store).object o).isSome = .error (.ofChannel fault)) :
    Refused V limits o q W fault := by
  rcases hopen : Mirrored.open b limits o q W with ⟨r, W'⟩
  obtain ⟨es, hm, hr⟩ := open_move hopen
  -- the probe cannot have come out well
  have hbad {os' es' s found} (hos' : OpenOptions.ofGiven q.options = .ok os')
      (probe : ProbeMove o os' es' (.ok found)) (hr : b.Runs W.store es' s) : False := by
    obtain rfl := Except.ok.inj (hos.symm.trans hos')
    obtain ⟨-, hfound⟩ := probe.verdict_eq hr V ht
    obtain ⟨e, he⟩ := afterProbe_error (α := Bool) b o W.store (.ofChannel fault)
    rw [hv, he] at hfound
    cases hfound
  generalize hM : W'.mirrors = M at hm
  cases hm with
  | badOptions hbadOptions => simp [hos] at hbadOptions
  | noDirectory hos' probe | made hos' probe => exact (hbad hos' probe hr).elim
  | fetched hos' probe | notFetched hos' probe =>
    obtain ⟨s, hr, -⟩ := hr.of_append
    exact (hbad hos' probe hr).elim
  | @unfit os' _ e hos' probe =>
    obtain rfl := Except.ok.inj (hos.symm.trans hos')
    obtain ⟨hholds, he⟩ := probe.verdict_eq hr V ht
    refine ⟨?_, ?_, ?_⟩
    · rw [hopen]
      rw [hv] at he
      unfold afterProbe at he ⊢
      cases hx : (b.call (.head o) W.store).1 <;> rw [hx] at he <;> cases he <;> rfl
    · rw [hopen]
      exact hholds
    · rw [hopen]
      exact hM

/-! ## Channels that were opened -/

/-- The channel later on, whatever operations were performed on it, and whatever the world was like
each time. -/
inductive Later (e : Channel.Setting σ τ) (m : Mirrored) : Mirrored → Prop where
  | now : Later e m m
  | next {c : Mirrored} (h : Later e m c) (op : Operation) (W : World σ) :
    Later e m (Channel.performMirrored e op (c, W)).2.1

theorem performMirrored_object (e : Channel.Setting σ τ) (op : Operation) (s : Mirrored × World σ) :
    (Channel.performMirrored e op s).2.1.object = s.1.object := by
  cases hop : op.isClosing with
  | false =>
    obtain ⟨l, t, M, h⟩ := performMirrored_retouched (b := e) hop s
    rw [h]
  | true =>
    obtain ⟨es, r, hm, -⟩ := performMirrored_close e hop s
    obtain ⟨reply, hc⟩ := hm.channel
    rw [hc]

theorem Later.object {e : Channel.Setting σ τ} {m c : Mirrored} (h : Later e m c) :
    c.object = m.object := by
  induction h with
  | now => rfl
  | next _ op W ih => exact (performMirrored_object e op _).trans ih

/-- An operation changes no object but the channel's own. -/
theorem performMirrored_others (e : Channel.Setting σ τ) (V : e.backend.View) (op : Operation)
    (s : Mirrored × World σ) {k : ObjectId} (hk : k.path ≠ s.1.object.path) :
    (V.holds (Channel.performMirrored e op s).2.2.store).object k =
      (V.holds s.2.store).object k := by
  cases hop : op.isClosing with
  | false =>
    obtain ⟨l, t, M, h⟩ := performMirrored_retouched (b := e) hop s
    rw [h]
  | true =>
    obtain ⟨es, r, hm, -, hr⟩ := performMirrored_close e hop s
    obtain ⟨x, -, -, hholds⟩ | ⟨-, hholds⟩ := hm.settled V hr
    · rw [hholds]
      exact if_neg hk
    · rw [hholds]

theorem final_others (e : Channel.Setting σ τ) (V : e.backend.View) (ops : List Operation)
    (s : Mirrored × World σ) {k : ObjectId} (hk : k.path ≠ s.1.object.path) :
    (V.holds (final (Channel.performMirrored e) ops s).2.store).object k =
      (V.holds s.2.store).object k := by
  induction ops generalizing s with
  | nil => rfl
  | cons op ops ih =>
    have hk' : k.path ≠ (Channel.performMirrored e op s).2.1.object.path := by
      rw [performMirrored_object]
      exact hk
    rw [final_cons, ih _ hk', performMirrored_others e V op s hk]

/-- What opening comes to with options that ask for a probe: the channel is for the object, nothing
has changed, and a new object was not there. -/
theorem open_fits (hos : OpenOptions.ofGiven q.options = .ok os)
    (ht : os.has .truncateExisting = false) {m : Mirrored} {W' : World σ}
    (hopen : Mirrored.open b limits o q W = (.ok m, W')) :
    m.object = o ∧ V.holds W'.store = V.holds W.store ∧
      (os.has .createNew = true → (V.holds W.store).object o = none) := by
  obtain ⟨es, hm, hr⟩ := open_move hopen
  have hholds := V.holds_of_looks hr hm.looks
  -- the probe came out well, so a new object is not there
  have hprobe {os' es' s found} (hos' : OpenOptions.ofGiven q.options = .ok os')
      (probe : ProbeMove o os' es' (.ok found)) (hr : b.Runs W.store es' s) :
      os.has .createNew = true → (V.holds W.store).object o = none := by
    intro hnew
    obtain rfl := Except.ok.inj (hos.symm.trans hos')
    obtain ⟨-, hfound⟩ := probe.verdict_eq hr V ht
    cases hthere : (V.holds W.store).object o with
    | none => rfl
    | some x =>
      have hv : verdict o os ((V.holds W.store).object o).isSome =
          .error (.ofChannel (.targetExists o)) := by
        simp [verdict, hthere, hnew]
      obtain ⟨e, he⟩ := afterProbe_error (α := Bool) b o W.store (.ofChannel (.targetExists o))
      rw [hv, he] at hfound
      cases hfound
  generalize hv : Except.ok m = r, W'.mirrors = M at hm
  cases hm with
  | badOptions | unfit | noDirectory | notFetched => cases hv
  | made hos' probe =>
    cases hv
    exact ⟨rfl, hholds, hprobe hos' probe hr⟩
  | fetched hos' probe =>
    cases hv
    obtain ⟨s, hr, -⟩ := hr.of_append
    exact ⟨rfl, hholds, hprobe hos' probe hr⟩

/-- **The existence contract of opening**, for options that do not ask for the object to be emptied.
A new object must not be there and one that is not made has to be, or nothing comes of it; and a
session that was opened for a new object leaves alone every object that was there: over a run of
operations, and also where others change the world between its operations. -/
theorem existence_contract (e : Channel.Setting σ τ) (V : e.backend.View) (hV : V.NamesByPath)
    (o : ObjectId) (q : OpenRequest) {os : OpenOptions}
    (hos : OpenOptions.ofGiven q.options = .ok os) (ht : os.has .truncateExisting = false)
    (W : World σ) :
    (os.has .createNew = true → ((V.holds W.store).object o).isSome = true →
      Refused V e.limits o q W (.targetExists o)) ∧
    (os.creates = false → ((V.holds W.store).object o).isSome = false →
      Refused V e.limits o q W (.targetMissing o)) ∧
    (os.has .createNew = true → ∀ m W', Mirrored.open e.backend e.limits o q W = (.ok m, W') →
      ∀ k, ((V.holds W.store).object k).isSome = true →
        (∀ ops, (V.holds (final (Channel.performMirrored e) ops (m, W')).2.store).object k =
          (V.holds W.store).object k) ∧
        ∀ c, Later e m c → ∀ op W'',
          (V.holds (Channel.performMirrored e op (c, W'')).2.2.store).object k =
            (V.holds W''.store).object k) := by
  refine ⟨fun hnew hthere => ?_, fun hcreates hmissing => ?_, fun hnew m W' hopen k hk => ?_⟩
  · refine refused_of_verdict hos ht ?_
    simp [verdict, hthere, hnew]
  · refine refused_of_verdict hos ht ?_
    simp [verdict, hcreates, hmissing]
  · obtain ⟨hobject, hholds, hmissing⟩ := open_fits (V := V) hos ht hopen
    have hpath : k.path ≠ m.object.path := by
      intro h
      rw [hobject] at h
      rw [hV _ o k h, hmissing hnew] at hk
      cases hk
    refine ⟨fun ops => ?_, fun c hc op W'' => ?_⟩
    · rw [final_others e V ops (m, W') hpath, hholds]
    · exact performMirrored_others e V op (c, W'') (by rw [hc.object]; exact hpath)

/-- A store in memory where all goes well. -/
def inMemory : Channel.Setting Store.MemoryStore Store.Stream where
  backend := Store.memoryBackend .none fun _ => {}

/-- A store with one object. -/
def oneObject : World Store.MemoryStore where
  store := { contents := ({} : Store.Contents).put ⟨"bucket", "key"⟩ { data := ⟨#[1, 2, 3]⟩ } }

def newObject : OpenRequest where
  options := some [.option .write, .option .createNew]

theorem existence_contract_of_one_object :
    (Mirrored.open inMemory.backend inMemory.limits ⟨"bucket", "key"⟩ newObject oneObject).1 =
      .error (.ofChannel (.targetExists ⟨"bucket", "key"⟩)) ∧
    (Mirrored.open inMemory.backend inMemory.limits ⟨"bucket", "other"⟩
        { options := some [.option .write] } oneObject).1 =
      .error (.ofChannel (.targetMissing ⟨"bucket", "other"⟩)) ∧
    ∃ m W, Mirrored.open inMemory.backend inMemory.limits ⟨"bucket", "other"⟩ newObject oneObject =
        (.ok m, W) ∧
      let s := final (Channel.performMirrored inMemory) [.write (some ⟨#[7]⟩), .close] (m, W)
      (s.2.store.contents.object? ⟨"bucket", "key"⟩).map (·.data) = some ⟨#[1, 2, 3]⟩ := by
  let V := Store.memoryView .none fun _ => {}
  have hV : V.NamesByPath := Store.memoryView_namesByPath .none fun _ => {}
  have hos : OpenOptions.ofGiven newObject.options = .ok ⟨[.write, .createNew]⟩ := rfl
  have hos' : OpenOptions.ofGiven (some [.option .write]) = .ok ⟨[.write]⟩ := rfl
  obtain ⟨hnew, -, -⟩ :=
    existence_contract inMemory V hV ⟨"bucket", "key"⟩ newObject hos (by decide) oneObject
  obtain ⟨-, hmissing, -⟩ := existence_contract inMemory V hV ⟨"bucket", "other"⟩
    { options := some [.option .write] } hos' (by decide) oneObject
  obtain ⟨-, -, hothers⟩ :=
    existence_contract inMemory V hV ⟨"bucket", "other"⟩ newObject hos (by decide) oneObject
  obtain ⟨m, W, hopen⟩ : ∃ m W, Mirrored.open inMemory.backend inMemory.limits ⟨"bucket", "other"⟩
      newObject oneObject = (.ok m, W) :=
    open_of_existing (V := V)
      (Store.memoryView_delivers _ (fun _ => ⟨by decide, rfl, rfl, rfl⟩) _) hos rfl rfl
  obtain ⟨hkept, -⟩ := hothers (by decide) m W hopen ⟨"bucket", "key"⟩ (by decide)
  refine ⟨(hnew (by decide) (by decide)).outcome, (hmissing (by decide) (by decide)).outcome, m, W,
    hopen, ?_⟩
  exact congrArg (Option.map (·.data)) (hkept _)

/-- With an object that is to be emptied, a channel for a new object opens where there is one
already, and replaces it on closing. -/
theorem emptied_without_probe :
    (oneObject.store.contents.object? ⟨"bucket", "key"⟩).map (·.data) = some ⟨#[1, 2, 3]⟩ ∧
    (match Mirrored.open inMemory.backend inMemory.limits ⟨"bucket", "key"⟩
        { options := some [.option .write, .option .createNew, .option .truncateExisting] }
        oneObject with
      | (.ok m, W) =>
        ((final (Channel.performMirrored inMemory) [.close] (m, W)).2.store.contents.object?
          ⟨"bucket", "key"⟩).map (·.data)
      | (.error _, _) => none) = some .empty := by
  decide +kernel

end ObjectChannel.Mirrored
