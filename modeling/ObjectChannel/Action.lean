/-
Actions on a state. An action has an outcome and leaves a state, also when it fails: what it had
done before it failed stays done. The three ways of dealing with a failure are told apart, because
an interrupt passes through the first and not through the other two:

* `recover` handles ordinary failures only,
* `onFailure` runs something first and lets every failure go on,
* `ensuring` runs something at the end in any case; if that fails, its failure is the one raised.
-/
import ObjectChannel.Failure

namespace ObjectChannel

/-- An action on `σ`: its outcome and the state it leaves. -/
def Action (σ α : Type) : Type := σ → Except Failure α × σ

namespace Action

variable {σ ρ α β : Type}

def pure (a : α) : Action σ α := fun s => (.ok a, s)

def fail (e : Failure) : Action σ α := fun s => (.error e, s)

def bind (x : Action σ α) (f : α → Action σ β) : Action σ β := fun s =>
  match x s with
  | (.ok a, s') => f a s'
  | (.error e, s') => (.error e, s')

instance : Monad (Action σ) where
  pure := pure
  bind := bind

def get : Action σ σ := fun s => (.ok s, s)

def modify (f : σ → σ) : Action σ Unit := fun s => (.ok (), f s)

/-- The outcome of something that does not touch the state. -/
def ofExcept (x : Except Failure α) : Action σ α := fun s => (x, s)

/-- The action, with `handle` in place of an ordinary failure. -/
def recover (x : Action σ α) (handle : Failure → Action σ α) : Action σ α := fun s =>
  match x s with
  | (.error e, s') => if e.isInterrupt then (.error e, s') else handle e s'
  | r => r

/-- The action, with an ordinary failure turned into another. -/
def mapFailure (x : Action σ α) (f : Failure → Failure) : Action σ α :=
  x.recover fun e => fail (f e)

/-- The action; whatever failure it has, `first` runs before the failure goes on. -/
def onFailure (x : Action σ α) (first : Action σ Unit) : Action σ α := fun s =>
  match x s with
  | (.error e, s') =>
    match first s' with
    | (.ok _, s'') => (.error e, s'')
    | (.error e', s'') => (.error e', s'')
  | r => r

/-- The action, and then `last` in any case. -/
def ensuring (x : Action σ α) (last : Action σ Unit) : Action σ α := fun s =>
  match x s with
  | (r, s') =>
    match last s' with
    | (.ok _, s'') => (r, s'')
    | (.error e, s'') => (.error e, s'')

/-- The action on a part of a larger state. -/
def zoom (look : σ → ρ) (put : ρ → σ → σ) (x : Action ρ α) : Action σ α := fun s =>
  match x (look s) with
  | (r, t) => (r, put t s)

@[simp] theorem pure_apply (a : α) (s : σ) : (Pure.pure a : Action σ α) s = (.ok a, s) := rfl

@[simp] theorem fail_apply (e : Failure) (s : σ) : (fail e : Action σ α) s = (.error e, s) := rfl

theorem bind_apply (x : Action σ α) (f : α → Action σ β) (s : σ) :
    (x >>= f) s =
      match x s with
      | (.ok a, s') => f a s'
      | (.error e, s') => (.error e, s') := rfl

/-- Steps that go well one after the other go well each. -/
theorem ok_of_bind {x : Action σ α} {f : α → Action σ β} {b : β} {s s' : σ}
    (h : (x >>= f) s = (.ok b, s')) : ∃ a s₁, x s = (.ok a, s₁) ∧ f a s₁ = (.ok b, s') := by
  rw [bind_apply] at h
  rcases hx : x s with ⟨_ | a, s₁⟩ <;> rw [hx] at h
  · cases h
  · exact ⟨a, s₁, rfl, h⟩

/-- What ends in failure fails. -/
theorem not_ok_of_bind {x : Action σ α} {f : α → Action σ β} (h : ∀ a s, (f a s).1.isOk = false)
    (s : σ) : ((x >>= f) s).1.isOk = false := by
  rw [bind_apply]
  rcases x s with ⟨_ | a, s'⟩
  · rfl
  · exact h a s'

/-- An action whose value is only converted has the outcome and the state of the action itself. -/
theorem of_map {x : Action σ α} {f : α → β} {s s' : σ} {r : Except Failure β}
    (h : (do return f (← x) : Action σ β) s = (r, s')) :
    ∃ r₀, x s = (r₀, s') ∧ r = do return f (← r₀) := by
  rcases hx : x s with ⟨_ | _, _⟩ <;> simp only [bind_apply, hx] at h <;> cases h <;>
    exact ⟨_, rfl, rfl⟩

theorem map_apply (f : α → β) (x : Action σ α) (s : σ) :
    (f <$> x) s = ((x s).1.map f, (x s).2) := by
  show (match x s with | (.ok a, s') => _ | (.error e, s') => _) = _
  rcases x s with ⟨_ | _, _⟩ <;> rfl

theorem map_state (x : Action σ α) (f : α → β) (s : σ) :
    ((do return f (← x) : Action σ β) s).2 = (x s).2 := by
  rcases hx : x s with ⟨e | a, s'⟩
  · simp only [bind_apply, hx]
  · simp only [bind_apply, hx]
    rfl

@[simp] theorem get_apply (s : σ) : (get : Action σ σ) s = (.ok s, s) := rfl

@[simp] theorem modify_apply (f : σ → σ) (s : σ) : modify f s = (.ok (), f s) := rfl

@[simp] theorem ofExcept_apply (x : Except Failure α) (s : σ) : ofExcept x s = (x, s) := rfl

theorem recover_apply (x : Action σ α) (handle : Failure → Action σ α) (s : σ) :
    x.recover handle s =
      match x s with
      | (.error e, s') => if e.isInterrupt then (.error e, s') else handle e s'
      | r => r := rfl

/-- Turning one ordinary failure into another changes the outcome alone. -/
theorem mapFailure_apply (x : Action σ α) (f : Failure → Failure) (s : σ) :
    x.mapFailure f s = ((x s).1.mapError fun e => if e.isInterrupt then e else f e, (x s).2) := by
  unfold mapFailure
  rw [recover_apply]
  rcases x s with ⟨e | a, s'⟩
  · have hmap (g : Failure → Failure) : (Except.error e : Except Failure α).mapError g = .error (g e) := rfl
    cases he : e.isInterrupt <;> simp only [hmap, he] <;> rfl
  · rfl

theorem onFailure_apply (x : Action σ α) (first : Action σ Unit) (s : σ) :
    x.onFailure first s =
      match x s with
      | (.error e, s') =>
        match first s' with
        | (.ok _, s'') => (.error e, s'')
        | (.error e', s'') => (.error e', s'')
      | r => r := rfl

theorem ensuring_apply (x : Action σ α) (last : Action σ Unit) (s : σ) :
    x.ensuring last s =
      match x s with
      | (r, s') =>
        match last s' with
        | (.ok _, s'') => (r, s'')
        | (.error e, s'') => (.error e, s'') := rfl

/-- What runs at the end comes first where it fails. -/
theorem ensuring_eq (x : Action σ α) (last : Action σ Unit) (s : σ) :
    x.ensuring last s = (do (last (x s).2).1; (x s).1, (last (x s).2).2) := by
  unfold ensuring
  rcases x s with ⟨r, s'⟩
  rcases h : last s' with ⟨_ | _, _⟩ <;> simp only [h] <;> rfl

@[simp] theorem zoom_apply (look : σ → ρ) (put : ρ → σ → σ) (x : Action ρ α) (s : σ) :
    x.zoom look put s = ((x (look s)).1, put (x (look s)).2 s) := rfl

theorem id_map_apply (x : Action σ α) : id <$> x = x := by
  funext s
  show (match x s with | (.ok a, s') => _ | (.error e, s') => _) = x s
  rcases x s with ⟨_ | _, _⟩ <;> rfl

theorem bind_assoc_apply {γ : Type} (x : Action σ α) (f : α → Action σ β) (g : β → Action σ γ) :
    x >>= f >>= g = x >>= fun a => f a >>= g := by
  funext s
  simp only [bind_apply]
  rcases x s with ⟨_ | _, _⟩ <;> rfl

instance : LawfulMonad (Action σ) :=
  LawfulMonad.mk' (Action σ) id_map_apply (fun _ _ => rfl) bind_assoc_apply

end Action
end ObjectChannel
