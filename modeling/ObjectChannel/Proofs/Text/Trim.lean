/-
Texts without the characters around them: what is taken off at either end is in a set of characters, and
what is left neither begins nor ends with one of the set; that is one text and no other.
-/
import Mathlib.Data.List.TakeWhile
import ObjectChannel.Text.Blank

namespace ObjectChannel.Text

/-- The text `t` is what is left of `s` without the characters in `p` at both ends. -/
structure Trims (p : Char → Bool) (s t : List Char) : Prop where
  within : ∃ before after, s = before ++ t ++ after ∧ (∀ c ∈ before, p c = true) ∧ ∀ c ∈ after, p c = true
  first : ∀ c, t.head? = some c → p c = false
  last : ∀ c, t.getLast? = some c → p c = false

variable {p : Char → Bool}

theorem Trims.mem {s t : List Char} (h : Trims p s t) {c : Char} (hc : c ∈ t) : c ∈ s := by
  obtain ⟨before, after, rfl, -, -⟩ := h.within
  exact List.mem_append_left _ (List.mem_append_right _ hc)

/-- What stands at the beginning is taken off. -/
theorem exists_dropWhile (p : Char → Bool) (s : List Char) : ∃ before, s = before ++ s.dropWhile p ∧
    (∀ c ∈ before, p c = true) ∧ ∀ c, (s.dropWhile p).head? = some c → p c = false := by
  refine ⟨s.takeWhile p, List.takeWhile_append_dropWhile.symm, fun c => List.mem_takeWhile_imp, fun c hc => ?_⟩
  have hstop := List.head?_dropWhile_not p s
  rw [hc] at hstop
  exact hstop

theorem dropWhile_append {before t : List Char} (hbefore : ∀ c ∈ before, p c = true)
    (ht : ∀ c, t.head? = some c → p c = false) : (before ++ t).dropWhile p = t := by
  rw [List.dropWhile_append_of_pos hbefore]
  cases t with
  | nil => rfl
  | cons c t => exact List.dropWhile_cons_of_neg (by simp [ht c rfl])

theorem trims_trimmed (p : Char → Bool) (s : List Char) : Trims p s (trimmed p s) := by
  obtain ⟨before, hs, hbefore, hfirst⟩ := exists_dropWhile p s
  obtain ⟨after, ht, hafter, hlast⟩ := exists_dropWhile p (s.dropWhile p).reverse
  have hmiddle : s.dropWhile p = trimmed p s ++ after.reverse := by
    rw [trimmed, ← List.reverse_append, ← ht, List.reverse_reverse]
  refine ⟨⟨before, after.reverse, ?_, hbefore, fun c hc => hafter c (List.mem_reverse.mp hc)⟩, ?_, ?_⟩
  · rw [List.append_assoc, ← hmiddle, ← hs]
  · intro c hc
    refine hfirst c ?_
    rw [hmiddle, List.head?_append, hc]
    rfl
  · intro c hc
    rw [trimmed, List.getLast?_reverse] at hc
    exact hlast c hc

theorem Trims.eq {s t : List Char} (h : Trims p s t) : t = trimmed p s := by
  obtain ⟨before, after, rfl, hbefore, hafter⟩ := h.within
  have hafter' : ∀ c ∈ after.reverse, p c = true := fun c hc => hafter c (List.mem_reverse.mp hc)
  have hlast : ∀ c, t.reverse.head? = some c → p c = false := fun c hc =>
    h.last c (List.head?_reverse.symm.trans hc)
  rw [trimmed, List.append_assoc]
  cases t with
  | nil =>
    have hall : ∀ c ∈ before ++ ([] ++ after), p c = true := fun c hc =>
      (List.mem_append.mp hc).elim (hbefore c) (hafter c)
    rw [List.dropWhile_eq_nil_iff.mpr hall]
    rfl
  | cons c t =>
    rw [dropWhile_append (t := c :: t ++ after) hbefore h.first, List.reverse_append, dropWhile_append hafter' hlast,
      List.reverse_reverse]

theorem trims_iff {s t : List Char} : Trims p s t ↔ t = trimmed p s :=
  ⟨Trims.eq, fun h => h ▸ trims_trimmed p s⟩

end ObjectChannel.Text
