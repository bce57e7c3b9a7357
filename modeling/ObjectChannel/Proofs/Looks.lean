/-
Looking leaves a store as it is: asking for an object, or whether there is one, and closing a stream
change nothing of what it holds, whatever comes of them. This is so for a store in memory and for the
service behind a client.
-/
import ObjectChannel.Proofs.Mirrored.Opening
import ObjectChannel.Proofs.Reader.Looks
import ObjectChannel.S3.Client

namespace ObjectChannel

variable {σ τ α β γ : Type}

/-- The action leaves this of its state as it is, also where it fails. -/
def Action.Keeps (f : σ → γ) (x : Action σ α) : Prop := ∀ s, f (x s).2 = f s

namespace Action.Keeps

variable {f : σ → γ} {x : Action σ α}

theorem pure (a : α) : Keeps f (Pure.pure a : Action σ α) := fun _ => rfl

theorem fail (e : Failure) : Keeps f (Action.fail e : Action σ α) := fun _ => rfl

theorem ofExcept (r : Except Failure α) : Keeps f (Action.ofExcept r) := fun _ => rfl

theorem get : Keeps f (Action.get : Action σ σ) := fun _ => rfl

theorem modify {g : σ → σ} (h : ∀ s, f (g s) = f s) : Keeps f (Action.modify g) := h

theorem bind {k : α → Action σ β} (hx : Keeps f x) (hk : ∀ a, Keeps f (k a)) :
    Keeps f (x >>= k) := by
  intro s
  have h := hx s
  rw [bind_apply]
  rcases hs : x s with ⟨e | a, s'⟩ <;> rw [hs] at h
  · exact h
  · exact (hk a s').trans h

/-- What is done about a failure makes no difference to what is kept. -/
theorem recover_eq {handle : Failure → Action σ α} (hh : ∀ e, Keeps f (handle e)) (s : σ) :
    f (x.recover handle s).2 = f (x s).2 := by
  rw [recover_apply]
  rcases x s with ⟨e | a, s'⟩
  · show f (if e.isInterrupt = true then (Except.error e, s') else handle e s').2 = f s'
    split
    · rfl
    · exact hh e s'
  · rfl

theorem recover {handle : Failure → Action σ α} (hx : Keeps f x) (hh : ∀ e, Keeps f (handle e)) :
    Keeps f (x.recover handle) := fun s => (recover_eq hh s).trans (hx s)

/-- Something that is kept once it has gone well and been followed up, or has failed. What is done about
a failure does not turn it into success. -/
theorem recover_bind {handle : Failure → Action σ α} {k : α → Action σ β}
    (hok : ∀ {s a s'}, x s = (.ok a, s') → f (k a s').2 = f s)
    (hfail : ∀ {s e s'}, x s = (.error e, s') → f s' = f s) (hh : ∀ e, Keeps f (handle e))
    (hn : ∀ e s, (handle e s).1.isOk = false) : Keeps f (x.recover handle >>= k) := by
  intro s
  rw [bind_apply, recover_apply]
  rcases hx : x s with ⟨e | a, s'⟩
  · cases he : e.isInterrupt with
    | true =>
      simp only [he, ite_true]
      exact hfail hx
    | false =>
      have hkept := hh e s'
      have hfails := hn e s'
      simp only [he, Bool.false_eq_true, ite_false]
      rcases hs : handle e s' with ⟨e' | a, s''⟩ <;> rw [hs] at hkept hfails
      · exact hkept.trans (hfail hx)
      · cases hfails
  · exact hok hx

theorem mapFailure (hx : Keeps f x) (g : Failure → Failure) : Keeps f (x.mapFailure g) :=
  hx.recover fun _ => fail _

theorem map (hx : Keeps f x) (g : α → β) : Keeps f (g <$> x) := by
  intro s
  rw [map_apply]
  exact hx s

theorem onFailure {first : Action σ Unit} (hx : Keeps f x) (hf : Keeps f first) :
    Keeps f (x.onFailure first) := by
  intro s
  have h := hx s
  rw [onFailure_apply]
  rcases hs : x s with ⟨e | a, s'⟩ <;> rw [hs] at h
  · have h' := hf s'
    rcases hs' : first s' with ⟨_ | _, s''⟩ <;> rw [hs'] at h' <;> simp only [hs'] <;>
      exact h'.trans h
  · exact h

theorem ensuring_eq {last : Action σ Unit} (hl : Keeps f last) (s : σ) :
    f (x.ensuring last s).2 = f (x s).2 := by
  rw [Action.ensuring_eq]
  exact hl _

theorem ensuring {last : Action σ Unit} (hx : Keeps f x) (hl : Keeps f last) :
    Keeps f (x.ensuring last) := fun s => (ensuring_eq hl s).trans (hx s)

end Action.Keeps

/-- Looking leaves this of the store as it is. -/
structure Backend.KeepsOnLooks (b : Backend σ τ) (f : σ → γ) : Prop where
  get : ∀ o range, (b.call (.get o range)).Keeps f
  head : ∀ o, (b.call (.head o)).Keeps f
  close : ∀ t, (b.close t).Keeps f

theorem Backend.KeepsOnLooks.of_looks {b : Backend σ τ} {f : σ → γ} (hb : b.KeepsOnLooks f)
    {s s' : σ} (h : b.Looks s s') : f s' = f s := by
  obtain ⟨es, hrun, hlook⟩ := h
  induction hrun with
  | nil => rfl
  | @call r x s s' _ _ hc _ ih =>
    have hstep : f s' = f s := by
      obtain rfl : (b.call r s).2 = s' := congrArg Prod.snd hc
      cases r with
      | get o range => exact hb.get o range s
      | head o => exact hb.head o s
      | _ => cases hlook _ (.head _)
    exact (ih fun y hy => hlook y (.tail _ hy)).trans hstep
  | @closing t x s s' _ _ hc _ ih =>
    have hstep : f s' = f s := by
      obtain rfl : (b.close t s).2 = s' := congrArg Prod.snd hc
      exact hb.close t s
    exact (ih fun y hy => hlook y (.tail _ hy)).trans hstep

/-- Opening a mirror only looks. -/
theorem Mirrored.open_looks {b : Backend σ τ} (limits : Limits) (o : ObjectId) (q : OpenRequest)
    (W : World σ) : b.Looks W.store (Mirrored.open b limits o q W).2.store := by
  have hopen : Mirrored.open b limits o q W =
      ((Mirrored.open b limits o q W).1, (Mirrored.open b limits o q W).2) := rfl
  obtain ⟨es, hmove, hrun⟩ := open_move hopen
  exact ⟨es, hrun, hmove.looks⟩

open ObjectChannel.Action

namespace Store

variable {streams : StreamPlan}

theorem MemoryStore.call_keeps {plan : Plan Method Unit} {r : Request}
    (h : (serve streams r).Keeps (·.contents)) : (call plan streams r).Keeps (·.contents) := by
  refine Keeps.bind (.modify fun _ => rfl) fun _ => Keeps.get.bind fun s => ?_
  split
  · exact .fail _
  · exact h

/-- Looking leaves a store in memory as it is. -/
theorem memoryBackend_keepsOnLooks (plan : Plan Method Unit) (streams : StreamPlan) :
    (memoryBackend plan streams).KeepsOnLooks (·.contents) where
  get o range := by
    refine MemoryStore.call_keeps (Keeps.get.bind fun s => ?_)
    split
    · exact .fail _
    · exact Keeps.bind (.modify fun _ => rfl) fun _ => .pure _
  head o := by
    refine MemoryStore.call_keeps (Keeps.get.bind fun s => ?_)
    split <;> exact .pure _
  close t := Keeps.bind (.modify fun _ => rfl) fun _ => .ofExcept _

end Store

namespace S3

namespace Service

variable {plan : Store.Plan Method CannedReply} {streams : Store.StreamPlan}

theorem call_keeps {r : Request} (h : (serve streams r).Keeps (·.contents)) :
    (call plan streams r).Keeps (·.contents) := by
  refine Keeps.bind (.modify fun _ => rfl) fun _ => Keeps.get.bind fun s => ?_
  split
  · exact .fail _
  · exact .pure _
  · exact h

theorem call_get_keeps (o : ObjectId) (range : Option String) :
    (call plan streams (.getObject o range)).Keeps (·.contents) := by
  refine call_keeps (Keeps.get.bind fun s => ?_)
  split
  · exact .fail _
  · exact (Keeps.ofExcept _).bind fun _ => Keeps.bind (.modify fun _ => rfl) fun _ => .pure _

theorem call_head_keeps (o : ObjectId) :
    (call plan streams (.headObject o)).Keeps (·.contents) := by
  refine call_keeps (Keeps.get.bind fun s => ?_)
  split
  · exact .fail _
  · exact .pure _

end Service

namespace Client

variable {nesting : Nat} {send : Dispatch σ τ} {f : σ → γ} {o : ObjectId}

theorem getObject_keeps (h : ∀ range, (send (.getObject o range)).Keeps f)
    (range : Option (Int × Int)) : (getObject nesting send o range).Keeps f := by
  unfold getObject
  split
  · exact ((h _).mapFailure _).bind fun _ => .ofExcept _
  · split
    · exact .pure _
    · refine (Keeps.ofExcept _).bind fun text => ?_
      refine Keeps.bind (((h _).map _).recover fun e => (Keeps.ofExcept _).bind fun _ => ?_) fun r => ?_
      · split
        · exact .pure _
        · exact .fail _
      · split
        · exact .pure _
        · exact .ofExcept _

theorem headObject_keeps (h : (send (.headObject o)).Keeps f) :
    (headObject nesting send o).Keeps f := by
  refine Keeps.bind ((h.map _).recover fun e => (Keeps.ofExcept _).bind fun _ => ?_) fun r => ?_
  · split
    · exact .pure _
    · exact .fail _
  · split
    · exact .pure _
    · exact (Keeps.ofExcept _).bind fun _ => (Keeps.ofExcept _).bind fun _ =>
        (Keeps.ofExcept _).bind fun _ => (Keeps.ofExcept _).bind fun _ => .pure _

end Client

/-- Looking through the client leaves the service as it is. -/
theorem backend_keepsOnLooks (settings : Settings) (plan : Store.Plan Method CannedReply)
    (streams : Store.StreamPlan) (nesting : Nat) :
    (backend settings plan streams nesting).KeepsOnLooks (·.contents) where
  get o range := Client.getObject_keeps (Service.call_get_keeps o) _
  head o := Client.headObject_keeps (Service.call_head_keeps o)
  close t := by
    cases t with
    | empty => exact .pure _
    | remote t => exact Keeps.bind (.modify fun _ => rfl) fun _ => .ofExcept _

end S3

end ObjectChannel
