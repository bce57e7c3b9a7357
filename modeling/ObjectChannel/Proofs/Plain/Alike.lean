/-
Doing the same over two plain stores. Two worlds are alike if their stores have the same bare contents
and their mirrors are the same; logs and counters do not matter. Two results are the same if both are
good or both are failures of one kind, whatever led to those.
-/
import ObjectChannel.Channel.Operation
import ObjectChannel.Proofs.Plain.Backend

namespace ObjectChannel

open Store (Contents)

/-- The failure, without what led to it. -/
def Failure.bare : Failure → Failure
  | .channel fault _ => .channel fault none
  | e => e

/-- The answer, without what led to a failure that it tells of. -/
def Answer.bare : Answer → Answer
  | .filled buffer outcome => .filled buffer (outcome.mapError Failure.bare)
  | a => a

/-- The outcome of an operation, without what led to failures. -/
def bareOutcome (x : Except Failure Answer) : Except Failure Answer :=
  (x.map Answer.bare).mapError Failure.bare

/-! ## Results -/

/-- Both actions went well, with values in relation, or both failed in the same way; the states they
left are in relation too. -/
inductive Same {S S' α α' : Type} (A : α → α' → Prop) (R : S → S' → Prop) :
    Except Failure α × S → Except Failure α' × S' → Prop where
  | ok {a a' s s'} (value : A a a') (state : R s s') : Same A R (.ok a, s) (.ok a', s')
  | error {e e' s s'} (failure : e.bare = e'.bare) (state : R s s') :
    Same A R (.error e, s) (.error e', s')

namespace Same

variable {S S' α α' β β' : Type} {A : α → α' → Prop} {B : β → β' → Prop} {R R' : S → S' → Prop}
  {x : Action S α} {x' : Action S' α'} {s : S} {s' : S'}

/-- What goes on in the same way from the same results has the same results. -/
theorem bind {f : α → Action S β} {f' : α' → Action S' β'} (h : Same A R (x s) (x' s'))
    (hok : ∀ {a a' t t'}, A a a' → R t t' → Same B R' (f a t) (f' a' t'))
    (herror : ∀ {t t'}, R t t' → R' t t') : Same B R' ((x >>= f) s) ((x' >>= f') s') := by
  rw [Action.bind_apply, Action.bind_apply]
  generalize x s = r, x' s' = r' at h
  cases h with
  | ok value state => exact hok value state
  | error failure state => exact .error failure (herror state)

theorem imp {A' : α → α' → Prop} {r : Except Failure α × S} {r' : Except Failure α' × S'}
    (h : Same A R r r') (hA : ∀ {a a'}, A a a' → A' a a') (hR : ∀ {t t'}, R t t' → R' t t') :
    Same A' R' r r' := by
  cases h with
  | ok value state => exact .ok (hA value) (hR state)
  | error failure state => exact .error failure (hR state)

/-- What goes well and is only converted. -/
theorem map {f : α → β} {f' : α' → β'} (h : Same A R (x s) (x' s'))
    (hf : ∀ {a a'}, A a a' → B (f a) (f' a')) :
    Same B R ((do return f (← x) : Action S β) s) ((do return f' (← x') : Action S' β') s') :=
  h.bind (fun ha ht => .ok (hf ha) ht) fun ht => ht

/-- What runs at the end and cannot fail changes the states alone. -/
theorem ensuring {last : Action S Unit} {last' : Action S' Unit} (h : Same A R (x s) (x' s'))
    (hlast : ∀ {t t'}, R t t' → (last t).1 = .ok () ∧ (last' t').1 = .ok () ∧
      R' (last t).2 (last' t').2) :
    Same A R' (x.ensuring last s) (x'.ensuring last' s') := by
  rw [Action.ensuring_eq, Action.ensuring_eq]
  generalize x s = r, x' s' = r' at h
  cases h with
  | ok value state =>
    obtain ⟨h₁, h₂, hs⟩ := hlast state
    rw [h₁, h₂]
    exact .ok value hs
  | error failure state =>
    obtain ⟨h₁, h₂, hs⟩ := hlast state
    rw [h₁, h₂]
    exact .error failure hs

theorem bareOutcome_eq {r : Except Failure Answer × S} {r' : Except Failure Answer × S'}
    (h : Same (fun a a' => a'.bare = a.bare) R r r') : bareOutcome r'.1 = bareOutcome r.1 := by
  cases h with
  | ok value state => exact congrArg Except.ok value
  | error failure state => exact congrArg Except.error failure.symm

theorem state_rel {r : Except Failure α × S} {r' : Except Failure α' × S'} (h : Same A R r r') :
    R r.2 r'.2 := by
  cases h with
  | ok value state => exact state
  | error failure state => exact state

end Same

/-! ## Worlds -/

variable {σ τ σ' τ' : Type} {b : Backend σ τ} {b' : Backend σ' τ'}

/-- The bare contents of the store and the mirrors are as they were. -/
structure Backend.Plain.Untouched (P : b.Plain) (W W₁ : World σ) : Prop where
  contents : P.contents W₁.store = P.contents W.store
  mirrors : W₁.mirrors = W.mirrors

namespace Backend.Plain.Untouched

variable {P : b.Plain} {W W₁ W₂ : World σ}

theorem refl (W : World σ) : P.Untouched W W := ⟨rfl, rfl⟩

theorem trans (h : P.Untouched W W₁) (h' : P.Untouched W₁ W₂) : P.Untouched W W₂ :=
  ⟨h'.contents.trans h.contents, h'.mirrors.trans h.mirrors⟩

theorem logged (W : World σ) (e : Log.Event) : P.Untouched W (W.logged e) := ⟨rfl, rfl⟩

theorem counted (W : World σ) (f : Metrics → Metrics) : P.Untouched W (W.counted f) := ⟨rfl, rfl⟩

theorem answered {r : Request} {x : Except Failure (r.Reply τ)} {s : σ}
    (h : b.call r W.store = (x, s)) (hs : P.contents s = P.contents W.store) :
    P.Untouched W (W.answered b r) :=
  ⟨by rw [World.answered_store, h]; exact hs, World.answered_mirrors ..⟩

theorem onStore {s : σ} (hs : P.contents s = P.contents W.store) :
    P.Untouched W { W with store := s } := ⟨hs, rfl⟩

end Backend.Plain.Untouched

/-- The stores have the same bare contents, in which every upload of `c₀` is there still, and the
mirrors are the same. -/
structure World.Alike (P : b.Plain) (P' : b'.Plain) (c₀ : Contents) (W : World σ) (W' : World σ') :
    Prop where
  contents : P'.contents W'.store = P.contents W.store
  mirrors : W'.mirrors = W.mirrors
  namesFree : (P.contents W.store).NamesFree
  keepsUploads : c₀.KeepsUploads (P.contents W.store)

namespace World.Alike

variable {P : b.Plain} {P' : b'.Plain} {c₀ : Contents} {W : World σ} {W' : World σ'}

theorem logged (h : Alike P P' c₀ W W') (e : Log.Event) :
    Alike P P' c₀ (W.logged e) (W'.logged e) := ⟨h.contents, h.mirrors, h.namesFree, h.keepsUploads⟩

theorem counted (h : Alike P P' c₀ W W') (f : Metrics → Metrics) :
    Alike P P' c₀ (W.counted f) (W'.counted f) :=
  ⟨h.contents, h.mirrors, h.namesFree, h.keepsUploads⟩

theorem withMirrors (h : Alike P P' c₀ W W') (f : Mirrors → Mirrors) :
    Alike P P' c₀ { W with mirrors := f W.mirrors } { W' with mirrors := f W'.mirrors } :=
  ⟨h.contents, congrArg f h.mirrors, h.namesFree, h.keepsUploads⟩

theorem untouched (h : Alike P P' c₀ W W') {W₁ : World σ} {W₁' : World σ'}
    (h₁ : P.Untouched W W₁) (h₁' : P'.Untouched W' W₁') : Alike P P' c₀ W₁ W₁' where
  contents := by rw [h₁.contents, h₁'.contents, h.contents]
  mirrors := by rw [h₁.mirrors, h₁'.mirrors, h.mirrors]
  namesFree := by rw [h₁.contents]; exact h.namesFree
  keepsUploads := by rw [h₁.contents]; exact h.keepsUploads

/-- A request that fits goes well in both worlds, and does the same. -/
theorem call (h : Alike P P' c₀ W W') {r : Request} (hr : r.Fits (P.contents W.store)) :
    ∃ x x', (b.call r W.store).1 = .ok x ∧ (b'.call r W'.store).1 = .ok x' ∧
      r.Says (P.contents W.store) x ∧ r.Says (P.contents W.store) x' ∧
      P.contents (W.answered b r).store = r.effect (P.contents W.store) ∧
      Alike P P' c₀ (W.answered b r) (W'.answered b' r) := by
  obtain ⟨x, s, hcall, hsays, heffect⟩ := P.call_fits r W.store hr
  obtain ⟨x', s', hcall', hsays', heffect'⟩ := P'.call_fits r W'.store
    (by rw [h.contents]; exact hr)
  rw [h.contents] at hsays' heffect'
  have hstore : P.contents (W.answered b r).store = r.effect (P.contents W.store) := by
    rw [answered_store, hcall]
    exact heffect
  have hstore' : P'.contents (W'.answered b' r).store = r.effect (P.contents W.store) := by
    rw [answered_store, hcall']
    exact heffect'
  refine ⟨x, x', by rw [hcall], by rw [hcall'], hsays, hsays', hstore, ?_, ?_, ?_, ?_⟩
  · rw [hstore, hstore']
  · rw [answered_mirrors, answered_mirrors, h.mirrors]
  · rw [hstore]
    exact r.effect_namesFree h.namesFree
  · rw [hstore]
    exact h.keepsUploads.trans (r.effect_keepsUploads h.namesFree)

end World.Alike

end ObjectChannel
