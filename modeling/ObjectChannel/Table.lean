/-
Tables from names to entries that keep the order in which the names came in: object metadata,
store contents, environments. A name that is set again keeps its place.
-/
namespace ObjectChannel

structure Table (α : Type) where
  entries : List (String × α) := []

namespace Table

variable {α β : Type}

def empty : Table α := {}

instance : EmptyCollection (Table α) := ⟨empty⟩
instance : Inhabited (Table α) := ⟨empty⟩

def isEmpty (t : Table α) : Bool := t.entries.isEmpty

def get? (t : Table α) (k : String) : Option α := t.entries.lookup k

def contains (t : Table α) (k : String) : Bool := (t.get? k).isSome

def keys (t : Table α) : List String := t.entries.map (·.1)

/-- The entries with that of `k` replaced, or with a new one behind the others. -/
def insertEntry (k : String) (v : α) : List (String × α) → List (String × α)
  | [] => [(k, v)]
  | (k', v') :: rest => if k == k' then (k, v) :: rest else (k', v') :: insertEntry k v rest

def insert (t : Table α) (k : String) (v : α) : Table α := ⟨insertEntry k v t.entries⟩

def erase (t : Table α) (k : String) : Table α := ⟨t.entries.filter (·.1 != k)⟩

/-- Every entry of `u` set in `t`, one after the other. -/
def update (t u : Table α) : Table α := u.entries.foldl (fun acc e => acc.insert e.1 e.2) t

def ofList (l : List (String × α)) : Table α := empty.update ⟨l⟩

def map (f : α → β) (t : Table α) : Table β := ⟨t.entries.map fun e => (e.1, f e.2)⟩

@[simp] theorem get?_empty (k : String) : (empty : Table α).get? k = none := rfl

private theorem lookup_insertEntry (k : String) (v : α) (l : List (String × α)) (x : String) :
    (insertEntry k v l).lookup x = if x == k then some v else l.lookup x := by
  induction l with
  | nil => cases h : x == k <;> simp [insertEntry, List.lookup_cons, h]
  | cons e l ih =>
    obtain ⟨k', v'⟩ := e
    by_cases hk : k = k'
    · subst hk
      cases h : x == k <;> simp [insertEntry, List.lookup_cons, h]
    · simp only [insertEntry, beq_iff_eq, hk, ite_false, List.lookup_cons]
      cases hx : x == k'
      · simp [ih]
      · have : ¬x = k := fun h => hk (h.symm.trans (beq_iff_eq.1 hx))
        simp [this]

theorem get?_insert (t : Table α) (k : String) (v : α) (x : String) :
    (t.insert k v).get? x = if x == k then some v else t.get? x :=
  lookup_insertEntry k v t.entries x

@[simp] theorem get?_insert_self (t : Table α) (k : String) (v : α) :
    (t.insert k v).get? k = some v := by simp [get?_insert]

theorem get?_insert_other {k x : String} (t : Table α) (v : α) (h : x ≠ k) :
    (t.insert k v).get? x = t.get? x := by simp [get?_insert, h]

theorem length_insertEntry (k : String) (v : α) (l : List (String × α)) :
    (insertEntry k v l).length = if (l.lookup k).isSome then l.length else l.length + 1 := by
  induction l with
  | nil => rfl
  | cons e l ih =>
    obtain ⟨k', v'⟩ := e
    by_cases hk : k = k'
    · simp [insertEntry, hk]
    · have hb : (k == k') = false := beq_false_of_ne hk
      simp only [insertEntry, List.lookup_cons, hb, Bool.false_eq_true, ite_false,
        List.length_cons, ih]
      split <;> rfl

private theorem lookup_filter (k x : String) (l : List (String × α)) :
    (l.filter (·.1 != k)).lookup x = if x == k then none else l.lookup x := by
  induction l with
  | nil => simp
  | cons e l ih =>
    obtain ⟨k', v'⟩ := e
    by_cases hk : k' = k
    · subst hk
      simp only [List.filter_cons, bne_self_eq_false, Bool.false_eq_true, ite_false, ih,
        List.lookup_cons]
      cases hx : x == k' <;> simp
    · have hne : (k' != k) = true := by simpa using hk
      simp only [List.filter_cons, hne, ite_true, List.lookup_cons, ih]
      cases hx : x == k'
      · simp
      · have : (x == k) = false := by
          simp only [beq_iff_eq] at hx; subst hx; simpa using hk
        simp [this]

theorem get?_erase (t : Table α) (k x : String) :
    (t.erase k).get? x = if x == k then none else t.get? x :=
  lookup_filter k x t.entries

@[simp] theorem get?_erase_self (t : Table α) (k : String) : (t.erase k).get? k = none := by
  simp [get?_erase]

theorem get?_erase_other {k x : String} (t : Table α) (h : x ≠ k) :
    (t.erase k).get? x = t.get? x := by simp [get?_erase, h]

theorem get?_map (f : α → β) (t : Table α) (k : String) : (t.map f).get? k = (t.get? k).map f := by
  show (t.entries.map fun e => (e.1, f e.2)).lookup k = (t.entries.lookup k).map f
  induction t.entries with
  | nil => rfl
  | cons e l ih =>
    obtain ⟨k', v⟩ := e
    cases h : k == k' <;> simp [List.lookup_cons, h, ih]

theorem map_insert (f : α → β) (t : Table α) (k : String) (v : α) :
    (t.insert k v).map f = (t.map f).insert k (f v) := by
  refine congrArg Table.mk ?_
  show (insertEntry k v t.entries).map _ = insertEntry k (f v) (t.entries.map _)
  induction t.entries with
  | nil => rfl
  | cons e l ih => cases h : k == e.1 <;> simp [insertEntry, h, ih]

theorem map_erase (f : α → β) (t : Table α) (k : String) :
    (t.erase k).map f = (t.map f).erase k := by
  refine congrArg Table.mk ?_
  show (t.entries.filter _).map _ = (t.entries.map _).filter _
  rw [List.filter_map]
  rfl

end Table
end ObjectChannel
