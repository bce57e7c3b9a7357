/-
Whatever a reader does, and however its requests and its streams end, it only looks: a store holds
afterwards what it held before.
-/
import ObjectChannel.Channel.Operation
import ObjectChannel.Proofs.View

namespace ObjectChannel

variable {σ τ : Type} {b : Backend σ τ}

/-- All that has passed between two states of the store only looks. -/
def Backend.Looks (b : Backend σ τ) (s s' : σ) : Prop :=
  ∃ es, b.Runs s es s' ∧ ∀ x ∈ es, x.isLook = true

theorem Backend.Looks.refl (s : σ) : b.Looks s s := ⟨[], .nil, List.forall_mem_nil _⟩

theorem Backend.Looks.trans {s s' s'' : σ} (h : b.Looks s s') (h' : b.Looks s' s'') :
    b.Looks s s'' := by
  obtain ⟨es, hr, hl⟩ := h
  obtain ⟨es', hr', hl'⟩ := h'
  exact ⟨es ++ es', hr.append hr', fun x hx => (List.mem_append.mp hx).elim (hl x) (hl' x)⟩

theorem Backend.Looks.get (o : ObjectId) (range : Option (Nat × Nat)) (s : σ) :
    b.Looks s (b.call (.get o range) s).2 :=
  ⟨_, .call rfl .nil, fun x hx => by rw [List.mem_singleton.mp hx]; rfl⟩

theorem Backend.Looks.close (t : τ) (s : σ) : b.Looks s (b.close t s).2 :=
  ⟨_, .closing rfl .nil, fun x hx => by rw [List.mem_singleton.mp hx]; rfl⟩

namespace Reader

open ChannelAction

variable {α β : Type}

/-- An action of a reader that only looks, wherever it starts. -/
def OnlyLooks (b : Backend σ τ) (x : Step σ α) : Prop :=
  ∀ s, b.Looks s.2.store (x s).2.2.store

theorem OnlyLooks.bind {x : Step σ α} {f : α → Step σ β} (hx : OnlyLooks b x)
    (hf : ∀ a, OnlyLooks b (f a)) : OnlyLooks b (x >>= f) := by
  intro s
  have h := hx s
  rw [Action.bind_apply]
  rcases hs : x s with ⟨e | a, s'⟩ <;> rw [hs] at h
  · exact h
  · exact h.trans (hf a s')

theorem OnlyLooks.map {x : Step σ α} (hx : OnlyLooks b x) (f : α → β) :
    OnlyLooks b (do return f (← x)) := by
  intro s
  rw [Action.map_state]
  exact hx s

/-- What leaves the store alone only looks. -/
theorem OnlyLooks.of_store_eq {x : Step σ α} (h : ∀ s, (x s).2.2.store = s.2.store) :
    OnlyLooks b x := by
  intro s
  rw [h s]
  exact .refl _

theorem fetch_onlyLooks (capacity : Nat) : OnlyLooks b (fetch b capacity) := by
  rintro ⟨r, W⟩
  have hget := Backend.Looks.get (b := b) r.object (some (r.position, r.position + capacity)) W.store
  rcases hc : b.call (.get r.object (some (r.position, r.position + capacity))) W.store with ⟨x, s⟩
  rw [hc] at hget
  simp only [fetch, Action.bind_apply, World.log_apply, World.request_apply, World.logged_store, hc]
  cases x with
  | error e =>
    show b.Looks W.store (World.answered _ _ _).store
    rw [World.answered_store, World.logged_store, hc]
    exact hget
  | ok t =>
    show b.Looks W.store (b.close _ (World.answered _ _ _).store).2
    rw [World.answered_store, World.logged_store, hc]
    exact hget.trans (.close _ _)

theorem fetchUpTo_onlyLooks (capacity : Nat) : OnlyLooks b (fetchUpTo b capacity) := by
  refine OnlyLooks.bind (.of_store_eq fun _ => rfl) fun r => ?_
  split
  · exact .of_store_eq fun _ => rfl
  split
  · exact .of_store_eq fun _ => rfl
  refine (fetch_onlyLooks capacity).bind fun got => ?_
  split
  · exact .of_store_eq fun _ => rfl
  · exact .of_store_eq fun _ => rfl

theorem readChunk_onlyLooks (capacity : Nat) : OnlyLooks b (readChunk b capacity) := by
  refine (fetchUpTo_onlyLooks capacity).bind fun got => ?_
  refine .of_store_eq fun s => ?_
  cases got.outcome <;> rfl

theorem readOn_looks (capacity : Nat) (got : Bytes) (s : Reader × World σ)
    {r : Except Failure Bytes × (Reader × World σ)} (h : b.readOn capacity got s = some r) :
    b.Looks s.2.store r.2.2.store := by
  -- what one chunk does, and then what the rest does
  refine Backend.readOn.partial_correctness b capacity (fun _ s r => b.Looks s.2.store r.2.2.store) ?_
    got s r h
  intro rest ih got s r h
  have hchunk := readChunk_onlyLooks (b := b) capacity s
  rcases hc : readChunk b capacity s with ⟨e | chunk, s'⟩
  · rw [hc] at h hchunk
    cases h
    exact hchunk
  · rw [hc] at h hchunk
    by_cases hempty : chunk.isEmpty = true
    · simp only [hempty, ite_true] at h
      cases h
      exact hchunk
    · simp only [hempty, Bool.false_eq_true, ite_false] at h
      exact hchunk.trans (ih _ _ _ h)

theorem readRest_onlyLooks (limits : Limits) : OnlyLooks b (readRest b limits) := by
  refine OnlyLooks.bind (.of_store_eq fun _ => rfl) fun capacity s => ?_
  cases h : b.readOn capacity .empty s with
  | none => simpa [h] using Backend.Looks.refl (b := b) s.2.store
  | some r => simpa [h] using readOn_looks capacity .empty s h

theorem read_onlyLooks (limits : Limits) (size : Option Int) : OnlyLooks b (read b limits size) := by
  unfold read
  split
  · exact readRest_onlyLooks limits
  split
  · exact readRest_onlyLooks limits
  · exact OnlyLooks.bind (.of_store_eq fun _ => rfl) fun capacity => readChunk_onlyLooks capacity

theorem requireOpen_onlyLooks : OnlyLooks b requireOpen := by
  refine OnlyLooks.bind (.of_store_eq fun _ => rfl) fun r => ?_
  split <;> exact .of_store_eq fun _ => rfl

theorem seek_onlyLooks (offset whence : Int) : OnlyLooks b (seek offset whence) := by
  refine requireOpen_onlyLooks.bind fun _ => ?_
  refine OnlyLooks.bind (.of_store_eq fun _ => rfl) fun r => ?_
  split
  · extract_lets target
    split <;> exact .of_store_eq fun _ => rfl
  · exact .of_store_eq fun _ => rfl

theorem tell_onlyLooks : OnlyLooks b tell :=
  requireOpen_onlyLooks.bind fun _ => .of_store_eq fun _ => rfl

/-- **A reader only looks**, whatever it is asked to do. -/
theorem performReader_onlyLooks (e : Channel.Setting σ τ) (op : Operation) :
    OnlyLooks e.backend (Channel.performReader e op) := by
  cases op with
  | read size => exact (read_onlyLooks e.limits size).map _
  | readInto buffer => exact ((fetchUpTo_onlyLooks buffer.size).map _).map _
  | seek offset whence => exact (seek_onlyLooks offset whence).map _
  | setPosition p => exact (seek_onlyLooks p 0).map fun _ => Answer.none
  | position | tell => exact tell_onlyLooks.map _
  | _ => exact .of_store_eq fun _ => rfl

end Reader

end ObjectChannel
