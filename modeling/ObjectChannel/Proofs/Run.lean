/-
Runs of operations on one channel. Every operation is a turn; one that fails is a turn like any
other, and the next goes on from where it left the channel and the world.
-/
import ObjectChannel.Channel.Operation
import ObjectChannel.Proofs.Exchange

namespace ObjectChannel

/-- The operation closes a channel that a block was opened for, the block having ended well. -/
def Operation.closes : Operation → Bool
  | .close | .leave false => true
  | _ => false

/-- An operation of a run: what it found, what it came to, and what it left. -/
structure Turn (χ σ : Type) where
  operation : Operation
  before : χ × World σ
  outcome : Except Failure Answer
  after : χ × World σ

/-- The kind of failure that a turn ended with, where it is one of a channel. -/
def Turn.kind? {χ σ : Type} (t : Turn χ σ) : Option FailureKind :=
  match t.outcome with
  | .error (.channel fault _) => some fault.kind
  | _ => none

theorem Turn.kind?_of_outcome {χ σ : Type} {t : Turn χ σ} {fault : ChannelFault}
    {cause : Option Failure} (h : t.outcome = .error (.channel fault cause)) :
    t.kind? = some fault.kind := by
  rw [kind?, h]

/-- What passed in a turn. -/
def Turn.exchanges {χ σ τ : Type} (t : Turn χ (Recorded σ τ)) : List (Exchange τ) :=
  t.after.2.store.log.drop t.before.2.store.log.length

namespace ChannelAction

variable {χ σ : Type} (perform : Operation → ChannelAction χ σ Answer)

/-- The turns of a run. -/
def turns : List Operation → χ × World σ → List (Turn χ σ)
  | [], _ => []
  | op :: ops, s => ⟨op, s, (perform op s).1, (perform op s).2⟩ :: turns ops (perform op s).2

/-- What a run leaves. -/
def final (ops : List Operation) (s : χ × World σ) : χ × World σ :=
  ops.foldl (fun s op => (perform op s).2) s

@[simp] theorem turns_nil (s : χ × World σ) : turns perform [] s = [] := rfl

@[simp] theorem turns_cons (op : Operation) (ops : List Operation) (s : χ × World σ) :
    turns perform (op :: ops) s =
      ⟨op, s, (perform op s).1, (perform op s).2⟩ :: turns perform ops (perform op s).2 := rfl

@[simp] theorem final_nil (s : χ × World σ) : final perform [] s = s := rfl

@[simp] theorem final_cons (op : Operation) (ops : List Operation) (s : χ × World σ) :
    final perform (op :: ops) s = final perform ops (perform op s).2 := rfl

theorem final_append (ops ops' : List Operation) (s : χ × World σ) :
    final perform (ops ++ ops') s = final perform ops' (final perform ops s) :=
  List.foldl_append

theorem turns_append (ops ops' : List Operation) (s : χ × World σ) :
    turns perform (ops ++ ops') s =
      turns perform ops s ++ turns perform ops' (final perform ops s) := by
  induction ops generalizing s with
  | nil => rfl
  | cons op ops ih => simp [ih]

/-- A turn of a run stands where the operations before it lead to. -/
theorem of_mem_turns {ops : List Operation} {s : χ × World σ} {t : Turn χ σ}
    (h : t ∈ turns perform ops s) :
    ∃ ops₁ ops₂, ops = ops₁ ++ t.operation :: ops₂ ∧ t.before = final perform ops₁ s ∧
      perform t.operation t.before = (t.outcome, t.after) := by
  induction ops generalizing s with
  | nil => simp at h
  | cons op ops ih =>
    rcases List.mem_cons.mp h with rfl | h
    · exact ⟨[], ops, rfl, rfl, rfl⟩
    · obtain ⟨ops₁, ops₂, rfl, hb, ht⟩ := ih h
      exact ⟨op :: ops₁, ops₂, rfl, hb, ht⟩

end ChannelAction

/-! ## Operations that act on the store through its backend alone -/

/-- Whatever the operations do to the store passes through the backend. -/
def Backend.Serves {χ σ τ : Type} (b : Backend σ τ)
    (perform : Operation → ChannelAction χ σ Answer) : Prop :=
  ∀ op s, ∃ es, b.Runs s.2.store es (perform op s).2.2.store

namespace Backend.Serves

open ChannelAction

variable {χ σ τ : Type} {b : Backend σ τ}

theorem final {perform : Operation → ChannelAction χ σ Answer} (h : b.Serves perform)
    (ops : List Operation) (s : χ × World σ) :
    ∃ es, b.Runs s.2.store es (final perform ops s).2.store := by
  induction ops generalizing s with
  | nil => exact ⟨[], .nil⟩
  | cons op ops ih =>
    obtain ⟨es, hr⟩ := h op s
    obtain ⟨es', hr'⟩ := ih (perform op s).2
    exact ⟨es ++ es', hr.append hr'⟩

variable {perform : Operation → ChannelAction χ (Recorded σ τ) Answer}

/-- The record of a run goes on from the record before it, with all that passed. -/
theorem log_final (h : b.recorded.Serves perform) (ops : List Operation)
    (s : χ × World (Recorded σ τ)) :
    ∃ es, b.Runs s.2.store.store es (ChannelAction.final perform ops s).2.store.store ∧
      (ChannelAction.final perform ops s).2.store.log = s.2.store.log ++ es := by
  obtain ⟨es, hr⟩ := h.final ops s
  exact ⟨es, hr.of_recorded⟩

/-- A turn adds to the record what passed in it. -/
theorem log_after (h : b.recorded.Serves perform) {ops : List Operation}
    {s : χ × World (Recorded σ τ)} {t : Turn χ (Recorded σ τ)} (ht : t ∈ turns perform ops s) :
    t.after.2.store.log = t.before.2.store.log ++ t.exchanges := by
  obtain ⟨ops₁, ops₂, -, -, hp⟩ := of_mem_turns perform ht
  obtain ⟨es, hr⟩ := h t.operation t.before
  rw [hp] at hr
  have hlog : t.after.2.store.log = t.before.2.store.log ++ es := hr.of_recorded.2
  rw [Turn.exchanges, hlog, List.drop_left]

/-- What was recorded by the time of a turn is in the record of the run. -/
theorem mem_log_of_before (h : b.recorded.Serves perform) {ops : List Operation}
    {s : χ × World (Recorded σ τ)} {t : Turn χ (Recorded σ τ)} (ht : t ∈ turns perform ops s)
    {x : Exchange τ} (hx : x ∈ t.before.2.store.log) :
    x ∈ (ChannelAction.final perform ops s).2.store.log := by
  obtain ⟨ops₁, ops₂, rfl, hb, hp⟩ := of_mem_turns perform ht
  obtain ⟨es, -, hlog⟩ := h.log_final (t.operation :: ops₂) t.before
  rw [final_append, ← hb, hlog]
  exact List.mem_append_left _ hx

/-- All that passed in a turn is in the record of the run. -/
theorem mem_log (h : b.recorded.Serves perform) {ops : List Operation}
    {s : χ × World (Recorded σ τ)} {t : Turn χ (Recorded σ τ)} (ht : t ∈ turns perform ops s)
    {x : Exchange τ} (hx : x ∈ t.exchanges) :
    x ∈ (ChannelAction.final perform ops s).2.store.log := by
  obtain ⟨ops₁, ops₂, rfl, hb, hp⟩ := of_mem_turns perform ht
  obtain ⟨es, -, hlog⟩ := h.log_final ops₂ t.after
  rw [final_append, final_cons, ← hb, hp, hlog]
  exact List.mem_append_left _ (List.mem_of_mem_drop hx)

end Backend.Serves

/-- The setting with a record of what passes. -/
def Channel.Setting.recorded {σ τ : Type} (e : Setting σ τ) : Setting (Recorded σ τ) τ where
  backend := e.backend.recorded
  limits := e.limits
  names := e.names

end ObjectChannel
