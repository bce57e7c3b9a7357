/-
Comparing a channel with a simpler thing that takes the same operations: where every operation has
the same outcome on both and keeps them in relation, so does every run.
-/
import ObjectChannel.Proofs.Run

namespace ObjectChannel

/-- Something that operations are performed on, as a channel would. -/
abbrev Reference (ρ : Type) := Operation → ρ → Except Failure Answer × ρ

namespace Reference

variable {ρ : Type} (reference : Reference ρ)

/-- The outcomes of a run. -/
def outcomes : List Operation → ρ → List (Except Failure Answer)
  | [], _ => []
  | op :: ops, c => (reference op c).1 :: outcomes ops (reference op c).2

/-- What a run leaves. -/
def final (ops : List Operation) (c : ρ) : ρ := ops.foldl (fun c op => (reference op c).2) c

/-- Each operation of a run meets a condition where it is performed. -/
def Along (P : Operation → ρ → Prop) : List Operation → ρ → Prop
  | [], _ => True
  | op :: ops, c => P op c ∧ Along P ops (reference op c).2

variable {reference reference' : Reference ρ} {P : Operation → ρ → Prop} {ops : List Operation}
  {c : ρ}

theorem along_of_forall (h : ∀ op ∈ ops, ∀ c, P op c) : reference.Along P ops c := by
  induction ops generalizing c with
  | nil => trivial
  | cons op ops ih => exact ⟨h op (.head _) c, ih fun op hop => h op (.tail _ hop)⟩

/-- A run is the same on another reference, where that does the same at each step of it. -/
theorem Along.run_eq (hP : ∀ op c, P op c → reference' op c = reference op c)
    (h : reference.Along P ops c) :
    reference'.outcomes ops c = reference.outcomes ops c ∧
      reference'.final ops c = reference.final ops c := by
  induction ops generalizing c with
  | nil => exact ⟨rfl, rfl⟩
  | cons op ops ih =>
    obtain ⟨hop, hops⟩ := h
    have hstep := hP op c hop
    obtain ⟨houtcomes, hfinal⟩ := ih hops
    refine ⟨?_, ?_⟩
    · simp only [outcomes, hstep, houtcomes]
    · simp only [final, List.foldl_cons, hstep] at hfinal ⊢
      exact hfinal

end Reference

/-- On the operations that are `fit`, a channel does as the reference does. -/
def Simulates {χ σ ρ : Type} (perform : Operation → ChannelAction χ σ Answer)
    (reference : Reference ρ) (fit : Operation → Bool) (R : χ × World σ → ρ → Prop) : Prop :=
  ∀ op s c, fit op = true → R s c →
    (perform op s).1 = (reference op c).1 ∧ R (perform op s).2 (reference op c).2

theorem Simulates.run {χ σ ρ : Type} {perform : Operation → ChannelAction χ σ Answer}
    {reference : Reference ρ} {fit : Operation → Bool} {R : χ × World σ → ρ → Prop}
    (h : Simulates perform reference fit R) (ops : List Operation)
    (hops : ∀ op ∈ ops, fit op = true) {s : χ × World σ} {c : ρ} (hR : R s c) :
    (ChannelAction.turns perform ops s).map (·.outcome) = reference.outcomes ops c ∧
      R (ChannelAction.final perform ops s) (reference.final ops c) := by
  induction ops generalizing s c with
  | nil => exact ⟨rfl, hR⟩
  | cons op ops ih =>
    obtain ⟨hr, hR'⟩ := h op s c (hops op (.head _)) hR
    obtain ⟨hrs, hR''⟩ := ih (fun op hop => hops op (.tail _ hop)) hR'
    exact ⟨List.cons_eq_cons.mpr ⟨hr, hrs⟩, hR''⟩

end ObjectChannel
