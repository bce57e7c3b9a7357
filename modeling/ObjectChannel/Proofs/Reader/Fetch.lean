/-
What a reader gets from streams that deliver all that they should, in chunks of any size: exactly the
bytes from the cursor on, as many as there is room for.
-/
import ObjectChannel.Channel.Reader
import ObjectChannel.Proofs.View

namespace ObjectChannel

namespace Reader

open ChannelAction

variable {σ τ : Type} {b : Backend σ τ} {V : b.View}

theorem requireOpen_apply (s : Reader × World σ) :
    requireOpen s = (if s.1.closed then .error (.ofChannel (.closed s.1.object)) else .ok (), s) := by
  cases hc : s.1.closed <;> simp only [requireOpen, Action.bind_apply, this_apply, hc] <;> rfl

theorem readChunk_apply {capacity : Nat} {s s' : Reader × World σ} {f : Fetched}
    (h : fetchUpTo b capacity s = (.ok f, s')) :
    readChunk b capacity s = (f.outcome.map fun _ => f.bytes, s') := by
  simp only [readChunk, Action.bind_apply, h, Action.ofExcept_apply]
  cases f.outcome <;> rfl

theorem readInto_apply {s s' : Reader × World σ} {f : Fetched} {buffer : Bytes}
    (h : fetchUpTo b buffer.size s = (.ok f, s')) :
    readInto b buffer s =
      (.ok ⟨buffer.overwrite 0 f.bytes, f.outcome.map fun _ => f.bytes.size⟩, s') := by
  simp only [readInto, Action.bind_apply, h]
  rfl

/-- A whole stream fills the room, as far as it goes. -/
theorem drain_of_isWhole {left : τ → Bytes} {IsWhole : τ → Prop} (hb : b.WholeStreams left IsWhole)
    {t : τ} (h : IsWhole t) (room : Nat) (got : Bytes) :
    ∃ t', drain b t room got = ⟨got ++ (left t).take room, .ok (), t'⟩ ∧ IsWhole t' := by
  induction room using Nat.strongRecOn generalizing t got with
  | _ room ih =>
    unfold drain
    by_cases hroom : room = 0
    · refine ⟨t, ?_, h⟩
      rw [if_pos hroom, hroom, Bytes.take_zero, ByteArray.append_empty]
    obtain ⟨chunk, t', hread, hwhole, hleft, hsize, hend⟩ :=
      hb.read h (Nat.pos_of_ne_zero hroom)
    simp only [hroom, ite_false, hread]
    by_cases hchunk : chunk.size = 0
    · have hnone : left t = .empty := ByteArray.size_eq_zero_iff.mp (hend hchunk)
      refine ⟨t', ?_, hwhole⟩
      rw [if_pos hchunk, hnone, Bytes.take_of_size_le (Nat.zero_le _), ByteArray.append_empty]
    · obtain ⟨t'', hdrain, hwhole'⟩ :=
        ih (room - chunk.size) (by omega) hwhole (got ++ chunk)
      refine ⟨t'', ?_, hwhole'⟩
      rw [if_neg hchunk, if_neg (by omega), hdrain, hleft, Bytes.take_append hsize,
        ByteArray.append_assoc]

/-! ## Fetching

A fetch is told by the reader and the world it starts from, `s`, and by the content of the object. -/

/-- The range of the content that a fetch asks for. -/
def wanted (s : Reader × World σ) (x : StoredObject) (capacity : Nat) : Bytes :=
  x.data.slice s.1.position (s.1.position + capacity)

/-- The reader has moved on by some bytes, and the store is as it was. -/
structure MovedOn (V : b.View) (s s' : Reader × World σ) (n : Nat) : Prop where
  reader : s'.1 = { s.1 with position := s.1.position + n }
  holds : V.holds s'.2.store = V.holds s.2.store

theorem MovedOn.refl (s : Reader × World σ) : MovedOn V s s 0 := ⟨rfl, rfl⟩

theorem MovedOn.trans {s s' s'' : Reader × World σ} {n m : Nat} (h : MovedOn V s s' n)
    (h' : MovedOn V s' s'' m) : MovedOn V s s'' (n + m) :=
  ⟨by rw [h'.reader, h.reader, Nat.add_assoc], h'.holds.trans h.holds⟩

/-- A closed reader fetches nothing. -/
theorem fetchUpTo_of_closed {s : Reader × World σ} (hc : s.1.closed = true) (capacity : Nat) :
    fetchUpTo b capacity s = (.ok ⟨.empty, .error (.ofChannel (.closed s.1.object))⟩, s) := by
  simp only [fetchUpTo, Action.bind_apply, this_apply, hc, ite_true]
  rfl

theorem readChunk_of_closed {s : Reader × World σ} (hc : s.1.closed = true) (capacity : Nat) :
    readChunk b capacity s = (.error (.ofChannel (.closed s.1.object)), s) := by
  simp only [readChunk, Action.bind_apply, fetchUpTo_of_closed hc, Action.ofExcept_apply]

theorem readInto_of_closed {s : Reader × World σ} (hc : s.1.closed = true) (buffer : Bytes) :
    readInto b buffer s =
      (.ok ⟨buffer.overwrite 0 .empty, .error (.ofChannel (.closed s.1.object))⟩, s) := by
  simp only [readInto, Action.bind_apply, fetchUpTo_of_closed hc]
  rfl

theorem readOn_of_closed {s : Reader × World σ} (hc : s.1.closed = true) (capacity : Nat)
    (got : Bytes) :
    b.readOn capacity got s = some (.error (.ofChannel (.closed s.1.object)), s) := by
  rw [Backend.readOn, readChunk_of_closed hc]

theorem readRest_apply (limits : Limits) (s : Reader × World σ) :
    readRest b limits s =
      match limits.platform.capacity Capacity.maxSize limits.readSize with
      | .ok k => (b.readOn k .empty s).getD (.error .endless, s)
      | .error e => (.error e, s) := by
  unfold readRest
  cases limits.platform.capacity Capacity.maxSize limits.readSize <;> rfl

/-- The size of the destination that a read makes for itself. -/
def destination (readSize : Int) (size : Option Int) : Int :=
  if size.getD (-1) < 0 then readSize else size.getD (-1)

theorem read_apply (limits : Limits) (size : Option Int) (s : Reader × World σ) :
    read b limits size s =
      match limits.platform.capacity Capacity.maxSize (destination limits.readSize size) with
      | .error e => (.error e, s)
      | .ok k =>
        if size.getD (-1) < 0 then (b.readOn k .empty s).getD (.error .endless, s)
        else readChunk b k s := by
  have hrest (h : size.getD (-1) < 0) : read b limits size = readRest b limits := by
    cases size with
    | none => rfl
    | some n => exact if_pos h
  by_cases hn : size.getD (-1) < 0
  · simp only [hrest hn, readRest_apply, destination, hn, ite_true]
    cases limits.platform.capacity Capacity.maxSize limits.readSize <;> rfl
  · cases size with
    | none => simp at hn
    | some n =>
      rw [Option.getD_some] at hn
      simp only [read, destination, Option.getD_some, hn, ite_false, Action.bind_apply,
        Action.ofExcept_apply]
      cases limits.platform.capacity Capacity.maxSize n <;> rfl

section

variable {s : Reader × World σ} {x : StoredObject} (hV : V.Delivers s.1.object)
  (hx : (V.holds s.2.store).object s.1.object = some x)

include hV hx

/-- What lies in the range arrives. -/
theorem fetch_of_delivers (capacity : Nat) :
    (fetch b capacity s).1 = .ok ⟨wanted s x capacity, .ok ()⟩ ∧
      MovedOn V s (fetch b capacity s).2 (wanted s x capacity).size := by
  obtain ⟨r, W⟩ := s
  obtain ⟨t, ht, hwhole⟩ := hV hx (some (r.position, r.position + capacity))
  rcases hc : b.call (.get r.object (some (r.position, r.position + capacity))) W.store
    with ⟨_, s⟩
  obtain rfl : _ = Except.ok t := by simpa [hc] using ht
  have hs : V.holds s = V.holds W.store := V.holds_get hc
  obtain ⟨x', hx', hleft⟩ := V.get_ok hc
  obtain rfl : x = x' := by simpa [hx] using hx'
  obtain ⟨t', hdrain, hwhole'⟩ := drain_of_isWhole V.wholeStreams hwhole capacity .empty
  have hbytes : (V.left t).take capacity = wanted (r, W) x capacity := by
    rw [hleft]
    exact Bytes.take_of_size_le (by simp only [Store.MemoryStore.clip, Bytes.size_slice]; omega)
  rw [hbytes, ByteArray.empty_append] at hdrain
  have hclose := V.close_whole s hwhole'
  refine ⟨?_, ?_, ?_⟩ <;>
    simp only [fetch, Action.bind_apply, World.log_apply, World.request_apply, World.logged_store, hc,
      hdrain, World.onStore_apply, World.answered_store, hclose, ending, report, V.close_holds, hs]

theorem fetchUpTo_of_delivers (hopen : s.1.closed = false) (capacity : Nat) :
    (fetchUpTo b capacity s).1 = .ok ⟨wanted s x capacity, .ok ()⟩ ∧
      MovedOn V s (fetchUpTo b capacity s).2 (wanted s x capacity).size := by
  by_cases hcapacity : capacity = 0
  · have hnone : wanted s x capacity = .empty := by
      apply Bytes.ext_toList
      simp [wanted, hcapacity, Bytes.toList_slice]
    simp only [fetchUpTo, Action.bind_apply, this_apply, hopen, hcapacity, ite_true,
      Bool.false_eq_true, ite_false]
    rw [hcapacity] at hnone
    rw [hnone]
    exact ⟨rfl, .refl s⟩
  · obtain ⟨hr, hmoved⟩ := fetch_of_delivers hV hx capacity
    simp only [fetchUpTo, Action.bind_apply, this_apply, hopen, hcapacity, Bool.false_eq_true,
      ite_false]
    rcases hf : fetch b capacity s with ⟨_, s'⟩
    rw [hf] at hr hmoved
    obtain rfl : _ = Except.ok _ := hr
    exact ⟨rfl, hmoved.reader, hmoved.holds⟩

theorem readInto_of_delivers (hopen : s.1.closed = false) (buffer : Bytes) :
    (readInto b buffer s).1 =
        .ok ⟨buffer.overwrite 0 (wanted s x buffer.size), .ok (wanted s x buffer.size).size⟩ ∧
      MovedOn V s (readInto b buffer s).2 (wanted s x buffer.size).size := by
  obtain ⟨hr, hmoved⟩ := fetchUpTo_of_delivers hV hx hopen buffer.size
  rcases hf : fetchUpTo b buffer.size s with ⟨_, s'⟩
  rw [hf] at hr hmoved
  obtain rfl : _ = Except.ok _ := hr
  simp only [readInto, Action.bind_apply, hf]
  exact ⟨rfl, hmoved⟩

theorem readChunk_of_delivers (hopen : s.1.closed = false) (capacity : Nat) :
    (readChunk b capacity s).1 = .ok (wanted s x capacity) ∧
      MovedOn V s (readChunk b capacity s).2 (wanted s x capacity).size := by
  obtain ⟨hr, hmoved⟩ := fetchUpTo_of_delivers hV hx hopen capacity
  rcases hf : fetchUpTo b capacity s with ⟨_, s'⟩
  rw [hf] at hr hmoved
  obtain rfl : _ = Except.ok _ := hr
  simp only [readChunk, Action.bind_apply, hf]
  exact ⟨rfl, hmoved⟩

end

/-- Reading on comes to an end, with everything from the cursor on, where every chunk is the next bytes
of some content. `Inv` is what all chunks keep. -/
theorem readOn_of_chunks {content : Bytes} {capacity : Nat} (hc : 0 < capacity)
    {Inv : Reader × World σ → Prop}
    (hchunk : ∀ s, Inv s → ∃ s',
      readChunk b capacity s = (.ok (content.slice s.1.position (s.1.position + capacity)), s') ∧
        s'.1.position =
          s.1.position + (content.slice s.1.position (s.1.position + capacity)).size ∧ Inv s')
    {s : Reader × World σ} (hs : Inv s) (got : Bytes) :
    ∃ s', b.readOn capacity got s = some (.ok (got ++ content.drop s.1.position), s') ∧
      s'.1.position = s.1.position + (content.drop s.1.position).size ∧ Inv s' := by
  -- the bytes behind the cursor get fewer with every chunk that is not empty
  induction hn : content.size - s.1.position using Nat.strongRecOn generalizing s got with
  | _ n ih =>
    obtain ⟨s₁, hread, hposition, hs₁⟩ := hchunk s hs
    have hsize : (content.slice s.1.position (s.1.position + capacity)).size =
        min (s.1.position + capacity) content.size - s.1.position := Bytes.size_slice ..
    have hdrop := Bytes.drop_eq_slice_append content s.1.position capacity
    rw [Backend.readOn, hread]
    generalize content.slice s.1.position (s.1.position + capacity) = chunk at *
    by_cases hempty : chunk.size = 0
    · have hisEmpty : chunk.isEmpty = true := Bytes.isEmpty_iff.mpr hempty
      have hnone : content.drop s.1.position = .empty :=
        ByteArray.size_eq_zero_iff.mp (by rw [Bytes.size_drop]; omega)
      simp only [hisEmpty, ite_true, hnone, ByteArray.append_empty]
      exact ⟨s₁, rfl, by rw [hposition, hempty]; rfl, hs₁⟩
    · have hisEmpty : chunk.isEmpty = false := Bytes.isEmpty_eq_false hempty
      obtain ⟨s', hrest, hposition', hs'⟩ :=
        ih (content.size - s₁.1.position) (by omega) hs₁ (got ++ chunk) rfl
      rw [hposition] at hrest hposition'
      simp only [hisEmpty, Bool.false_eq_true, ite_false]
      refine ⟨s', ?_, ?_, hs'⟩
      · rw [hrest, hdrop, ByteArray.append_assoc]
      · rw [hposition', hdrop, ByteArray.size_append, Nat.add_assoc]

/-- Reading on comes to an end, with everything from the cursor on. -/
theorem readOn_of_delivers {s : Reader × World σ} {x : StoredObject}
    (hV : V.Delivers s.1.object) (hx : (V.holds s.2.store).object s.1.object = some x)
    (hopen : s.1.closed = false) {capacity : Nat} (hc : 0 < capacity) (got : Bytes) :
    ∃ s', b.readOn capacity got s = some (.ok (got ++ x.data.drop s.1.position), s') ∧
      MovedOn V s s' (x.data.drop s.1.position).size := by
  let Inv (s' : Reader × World σ) : Prop :=
    s'.1 = { s.1 with position := s'.1.position } ∧ V.holds s'.2.store = V.holds s.2.store
  have hchunk : ∀ s', Inv s' → ∃ s'',
      readChunk b capacity s' =
        (.ok (x.data.slice s'.1.position (s'.1.position + capacity)), s'') ∧
          s''.1.position =
            s'.1.position + (x.data.slice s'.1.position (s'.1.position + capacity)).size ∧ Inv s'' := by
    rintro s' ⟨hreader, hholds⟩
    have hobject : s'.1.object = s.1.object := by rw [hreader]
    have hclosed : s'.1.closed = false := by rw [hreader]; exact hopen
    obtain ⟨hr, hmoved⟩ := readChunk_of_delivers (by rw [hobject]; exact hV)
      (by rw [hobject, hholds]; exact hx) hclosed capacity
    rcases hf : readChunk b capacity s' with ⟨_, s''⟩
    rw [hf] at hr hmoved
    obtain rfl : _ = Except.ok _ := hr
    have hposition : s''.1.position = s'.1.position + (wanted s' x capacity).size := by
      rw [hmoved.reader]
    refine ⟨s'', rfl, hposition, ?_, hmoved.holds.trans hholds⟩
    rw [hposition, hmoved.reader, hreader]
  obtain ⟨s', hon, hposition, hreader, hholds⟩ := readOn_of_chunks hc hchunk ⟨rfl, rfl⟩ got
  exact ⟨s', hon, by rw [hreader, hposition], hholds⟩

end Reader

end ObjectChannel
