/-
Tables whose names are distinct, entry by entry: where an entry that is set comes to stand, and what a
table looks like after another one has been laid over it.
-/
import Mathlib.Data.List.Nodup
import ObjectChannel.Table

namespace ObjectChannel.Table

variable {α : Type}

/-- A name that is new comes in behind the others. -/
theorem entries_insert_of_not_mem {t : Table α} {k : String} (v : α) (h : k ∉ t.keys) :
    (t.insert k v).entries = t.entries ++ [(k, v)] := by
  obtain ⟨entries⟩ := t
  show insertEntry k v entries = entries ++ [(k, v)]
  induction entries with
  | nil => rfl
  | cons e rest ih =>
    simp only [keys, List.map_cons, List.mem_cons, not_or] at h ih
    simp [insertEntry, h.1, ih h.2]

/-- A name that is there gets its new entry in its old place. -/
theorem entries_insert_of_mem {t : Table α} {k : String} (v : α) (ht : t.keys.Nodup) (h : k ∈ t.keys) :
    (t.insert k v).entries = t.entries.map fun e => if e.1 = k then (k, v) else e := by
  obtain ⟨entries⟩ := t
  show insertEntry k v entries = _
  induction entries with
  | nil => exact absurd h List.not_mem_nil
  | cons e rest ih =>
    obtain ⟨k', v'⟩ := e
    simp only [keys, List.map_cons, List.nodup_cons, List.mem_cons] at ht h ih
    by_cases hk : k = k'
    · subst hk
      have hrest : ∀ e ∈ rest, (if e.1 = k then (k, v) else e) = e := fun e he =>
        if_neg fun hkey : e.1 = k => ht.1 (hkey ▸ List.mem_map_of_mem he)
      simp [insertEntry, List.map_congr_left hrest]
    · have hmem : k ∈ rest.map (·.1) := h.resolve_left hk
      simp [insertEntry, hk, Ne.symm hk, ih ht.2 hmem]

theorem keys_insert_of_mem {t : Table α} {k : String} (v : α) (ht : t.keys.Nodup) (h : k ∈ t.keys) :
    (t.insert k v).keys = t.keys := by
  rw [keys, entries_insert_of_mem v ht h, List.map_map]
  refine List.map_congr_left fun e _ => ?_
  by_cases hk : e.1 = k <;> simp [hk]

theorem keys_insert_of_not_mem {t : Table α} {k : String} (v : α) (h : k ∉ t.keys) :
    (t.insert k v).keys = t.keys ++ [k] := by
  rw [keys, entries_insert_of_not_mem v h, List.map_append]
  rfl

theorem lookup_of_not_mem {k : String} {l : List (String × α)} (h : k ∉ l.map (·.1)) : l.lookup k = none :=
  List.lookup_eq_none_iff.mpr fun e he => by
    rw [bne_iff_ne]
    rintro rfl
    exact h (List.mem_map_of_mem he)

/-- The entries of one table set in another: they take the places of those of their names, and the
others come in behind, in order. -/
theorem entries_update {t : Table α} (ht : t.keys.Nodup) {l : List (String × α)}
    (hl : (l.map (·.1)).Nodup) :
    (t.update ⟨l⟩).entries =
      t.entries.map (fun e => (e.1, (l.lookup e.1).getD e.2)) ++ l.filter (fun e => e.1 ∉ t.keys) := by
  induction l generalizing t with
  | nil => simp [update]
  | cons e l ih =>
    obtain ⟨k, v⟩ := e
    simp only [List.map_cons, List.nodup_cons] at hl
    have hnone : l.lookup k = none := lookup_of_not_mem hl.1
    have hstep : t.update ⟨(k, v) :: l⟩ = (t.insert k v).update ⟨l⟩ := rfl
    by_cases hk : k ∈ t.keys
    · have hkeys := keys_insert_of_mem v ht hk
      rw [hstep, ih (hkeys ▸ ht) hl.2, hkeys, entries_insert_of_mem v ht hk, List.map_map,
        List.filter_cons_of_neg (by simpa using hk)]
      congr 1
      refine List.map_congr_left fun e _ => ?_
      by_cases he : e.1 = k
      · simp [he, hnone]
      · simp [he, List.lookup_cons, beq_false_of_ne he]
    · have hkeys := keys_insert_of_not_mem v hk
      have hnodup : (t.insert k v).keys.Nodup := by
        rw [hkeys, ← List.concat_eq_append]
        exact List.Nodup.concat hk ht
      have hold : ∀ e ∈ t.entries, (e.1, (l.lookup e.1).getD e.2) =
          (e.1, (((k, v) :: l).lookup e.1).getD e.2) := by
        intro e he
        have hne : e.1 ≠ k := fun hkey => hk (hkey ▸ List.mem_map_of_mem he)
        rw [List.lookup_cons, beq_false_of_ne hne]
      have hnew : ∀ e ∈ l, (decide (e.1 ∉ t.keys ++ [k])) = decide (e.1 ∉ t.keys) := by
        intro e he
        have hne : e.1 ≠ k := fun hkey => hl.1 (hkey ▸ List.mem_map_of_mem he)
        simp [hne]
      rw [hstep, ih hnodup hl.2, hkeys, entries_insert_of_not_mem v hk, List.map_append,
        List.map_congr_left hold, List.filter_congr hnew, List.filter_cons_of_pos (by simpa using hk),
        List.append_assoc]
      simp [hnone]

end ObjectChannel.Table
