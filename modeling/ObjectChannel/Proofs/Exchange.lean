/-
What passes between channels and the store behind them: requests with what came of them, and
streams being closed. A backend can keep a record of it. The record changes no answer, and shows
what a run asked the store for, in order, also where it failed.
-/
import ObjectChannel.World

namespace ObjectChannel

/-- Something that passed between a channel and its store. -/
inductive Exchange (τ : Type) where
  | call (request : Request) (outcome : Except Failure (request.Reply τ))
  | closing (stream : τ) (outcome : Except Failure Unit)

namespace Exchange

variable {τ : Type}

/-- The failure that it ended with. -/
def failure? : Exchange τ → Option Failure
  | .call _ (.error e) => some e
  | .closing _ (.error e) => some e
  | _ => none

def succeeded (x : Exchange τ) : Bool := x.failure?.isNone

/-- It did not end with an interrupt. -/
def isOrdinary (x : Exchange τ) : Bool := x.failure?.all fun e => !e.isInterrupt

@[simp] theorem succeeded_ok (r : Request) (x : r.Reply τ) :
    (call r (.ok x) : Exchange τ).succeeded = true := rfl

@[simp] theorem succeeded_error (r : Request) (e : Failure) :
    (call r (.error e) : Exchange τ).succeeded = false := rfl

@[simp] theorem isOrdinary_ok (r : Request) (x : r.Reply τ) :
    (call r (.ok x) : Exchange τ).isOrdinary = true := rfl

@[simp] theorem isOrdinary_error (r : Request) (e : Failure) :
    (call r (.error e) : Exchange τ).isOrdinary = !e.isInterrupt := rfl

theorem isInterrupt_of_isOrdinary {r : Request} {e : Failure}
    (h : (call r (.error e) : Exchange τ).isOrdinary = true) : e.isInterrupt = false := by
  simpa using h

/-- An interrupt does not stand among what is ordinary. -/
theorem false_of_interrupt {r : Request} {e : Failure} {es : List (Exchange τ)}
    (he : e.isInterrupt = true) (h : ∀ x ∈ call r (.error e) :: es, x.isOrdinary = true) : False := by
  have := isInterrupt_of_isOrdinary (h _ (.head _))
  simp [he] at this

theorem isOrdinary_of_succeeded {x : Exchange τ} (h : x.succeeded = true) :
    x.isOrdinary = true := by
  unfold succeeded at h
  simp [isOrdinary, Option.isNone_iff_eq_none.mp h]

end Exchange

/-- The failure that is raised where one brings down a transfer: an interrupt goes on as it is. -/
def Failure.raisedIn (what : Transfer) (object : ObjectId) (e : Failure) : Failure :=
  if e.isInterrupt then e else .transferFailed what object e

theorem Failure.raisedIn_of_ordinary {what : Transfer} {object : ObjectId} {e : Failure}
    (h : e.isInterrupt = false) : e.raisedIn what object = .transferFailed what object e := by
  simp [raisedIn, h]

/-- The exchanges, one after the other, take the store from one state to another. -/
inductive Backend.Runs {σ τ : Type} (b : Backend σ τ) : σ → List (Exchange τ) → σ → Prop where
  | nil {s} : Runs b s [] s
  | call {r x s s' s'' es} (h : b.call r s = (x, s')) (rest : Runs b s' es s'') :
    Runs b s (.call r x :: es) s''
  | closing {t x s s' s'' es} (h : b.close t s = (x, s')) (rest : Runs b s' es s'') :
    Runs b s (.closing t x :: es) s''

namespace Backend

variable {σ τ : Type} {b : Backend σ τ} {s s' s'' : σ} {es es' : List (Exchange τ)}

/-- Where nothing passes the store stays as it is. -/
theorem Runs.eq_of_nil (h : b.Runs s [] s') : s' = s := by
  cases h
  rfl

theorem Runs.append (h : b.Runs s es s') (h' : b.Runs s' es' s'') : b.Runs s (es ++ es') s'' := by
  induction h with
  | nil => exact h'
  | call hc _ ih => exact .call hc (ih h')
  | closing hc _ ih => exact .closing hc (ih h')

theorem Runs.of_append (h : b.Runs s (es ++ es') s'') :
    ∃ s', b.Runs s es s' ∧ b.Runs s' es' s'' := by
  induction es generalizing s with
  | nil => exact ⟨s, .nil, h⟩
  | cons x es ih =>
    cases h with
    | call hc rest =>
      obtain ⟨s', h₁, h₂⟩ := ih rest
      exact ⟨s', .call hc h₁, h₂⟩
    | closing hc rest =>
      obtain ⟨s', h₁, h₂⟩ := ih rest
      exact ⟨s', .closing hc h₁, h₂⟩

/-- A request of a channel, answered. -/
theorem Runs.answered {W : World σ} {r : Request} {x : Except Failure (r.Reply τ)}
    (h : b.call r W.store = (x, s)) : b.Runs W.store [.call r x] (W.answered b r).store := by
  rw [World.answered_store, h]
  exact .call h .nil

/-- Whatever fails fails in the ordinary way: nothing is interrupted. -/
structure FailsOrdinarily (b : Backend σ τ) : Prop where
  call : ∀ {r s e s'}, b.call r s = (.error e, s') → e.isInterrupt = false
  close : ∀ {t s e s'}, b.close t s = (.error e, s') → e.isInterrupt = false

theorem FailsOrdinarily.of_runs (hb : b.FailsOrdinarily) (h : b.Runs s es s') :
    ∀ x ∈ es, x.isOrdinary = true := by
  induction h with
  | nil => exact List.forall_mem_nil _
  | @call r x _ _ _ _ hc _ ih =>
    intro y hy
    rcases List.mem_cons.mp hy with rfl | hy
    · cases x with
      | ok => rfl
      | error e => simp [hb.call hc]
    · exact ih y hy
  | @closing t x _ _ _ _ hc _ ih =>
    intro y hy
    rcases List.mem_cons.mp hy with rfl | hy
    · cases x with
      | ok => rfl
      | error e =>
        show (!e.isInterrupt) = true
        rw [hb.close hc]
        rfl
    · exact ih y hy

end Backend

/-- A store with a record of what passed. -/
structure Recorded (σ τ : Type) where
  store : σ
  log : List (Exchange τ) := []

/-- The backend that also keeps a record. -/
def Backend.recorded {σ τ : Type} (b : Backend σ τ) : Backend (Recorded σ τ) τ where
  name := b.name
  call r s := ((b.call r s.store).1,
    { store := (b.call r s.store).2, log := s.log ++ [.call r (b.call r s.store).1] })
  read := b.read
  close t s := ((b.close t s.store).1,
    { store := (b.close t s.store).2, log := s.log ++ [.closing t (b.close t s.store).1] })
  remark := b.remark

/-- The record changes no reply. -/
theorem Backend.call_of_recorded {σ τ : Type} {b : Backend σ τ} {r : Request} {s s' : Recorded σ τ}
    {x : Except Failure (r.Reply τ)} (h : b.recorded.call r s = (x, s')) :
    b.call r s.store = (x, s'.store) := by
  cases h
  rfl

/-- What passes is what is recorded, and the store behind the record takes part in just that. -/
theorem Backend.Runs.of_recorded {σ τ : Type} {b : Backend σ τ} {s s' : Recorded σ τ}
    {es : List (Exchange τ)} (h : b.recorded.Runs s es s') :
    b.Runs s.store es s'.store ∧ s'.log = s.log ++ es := by
  induction h with
  | nil => exact ⟨.nil, by simp⟩
  | call hc _ ih =>
    simp only [Backend.recorded, Prod.mk.injEq] at hc
    obtain ⟨rfl, rfl⟩ := hc
    exact ⟨.call rfl ih.1, by simp [ih.2]⟩
  | closing hc _ ih =>
    simp only [Backend.recorded, Prod.mk.injEq] at hc
    obtain ⟨rfl, rfl⟩ := hc
    exact ⟨.closing rfl ih.1, by simp [ih.2]⟩

end ObjectChannel
