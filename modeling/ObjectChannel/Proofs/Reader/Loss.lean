/-
Reads of a reader whose requests and streams may fail at any time. A read that goes well brings all
that it asks for, from the cursor on. One that fails brings nothing, and leaves the cursor behind the
bytes that had arrived by then: these are lost.

So what reads bring comes in order and nothing comes twice, and nothing is missing from it where no
failing read has moved the cursor (`reads_in_order`). Where one has, the bytes that it passed over are
missing, and the reads after it go on behind them (`arrived_bytes_lost`).
-/
import Mathlib
import ObjectChannel.Proofs.MemoryView
import ObjectChannel.Proofs.Reader.Refinement
import ObjectChannel.Proofs.Run

namespace ObjectChannel.Reader

open ChannelAction

variable {σ τ : Type} {b : Backend σ τ} {V : b.View} {honest : τ → Prop}

/-! ## Streams that may break off -/

/-- A stream that is drained gives the first of the bytes that are left in it, and as many as there is
room for if it ends well. -/
theorem drain_gives (hV : V.GivesAll honest) {t : τ} (ht : honest t) (room : Nat) (got : Bytes) :
    ∃ k, k ≤ min room (V.left t).size ∧ (drain b t room got).bytes = got ++ (V.left t).take k ∧
      ((drain b t room got).ending = .ok () → k = min room (V.left t).size) := by
  induction room using Nat.strongRecOn generalizing t got with
  | _ room ih =>
    have hnone : got = got ++ (V.left t).take 0 := by rw [Bytes.take_zero, ByteArray.append_empty]
    unfold drain
    by_cases hroom : room = 0
    · simp only [hroom, ite_true]
      exact ⟨0, Nat.zero_le _, hnone, fun _ => by omega⟩
    simp only [hroom, ite_false]
    cases hread : b.read t (some room) with
    | error e => exact ⟨0, Nat.zero_le _, hnone, fun h => by cases h⟩
    | ok a =>
      obtain ⟨chunk, t'⟩ := a
      obtain ⟨ht', hleft, hend⟩ := hV.read ht (Nat.pos_of_ne_zero hroom) hread
      by_cases hchunk : chunk.size = 0
      · simp only [hchunk, ite_true]
        exact ⟨0, Nat.zero_le _, hnone, fun _ => by rw [hend hchunk]; omega⟩
      by_cases hlong : room < chunk.size
      · simp only [hchunk, hlong, ite_true, ite_false]
        exact ⟨0, Nat.zero_le _, hnone, fun h => by cases h⟩
      · simp only [hchunk, hlong, ite_false]
        obtain ⟨k, hk, hbytes, hall⟩ := ih (room - chunk.size) (by omega) ht' (got ++ chunk)
        have hsize : (V.left t).size = chunk.size + (V.left t').size := by
          rw [hleft, ByteArray.size_append]
        refine ⟨chunk.size + k, by omega, ?_, fun h => ?_⟩
        · rw [hbytes, hleft, Bytes.take_append (Nat.le_add_right _ _), Nat.add_sub_cancel_left,
            ByteArray.append_assoc]
        · have hk' := hall h
          omega

/-! ## What a fetch brings -/

variable {s s' : Reader × World σ} {x : StoredObject}

/-- A reader that has moved on reads the same object. -/
theorem MovedOn.content {n : Nat} (h : MovedOn V s s' n)
    (hx : (V.holds s.2.store).object s.1.object = some x) :
    (V.holds s'.2.store).object s'.1.object = some x := by
  rw [h.reader, h.holds]
  exact hx

theorem MovedOn.isOpen {n : Nat} (h : MovedOn V s s' n) (hopen : s.1.closed = false) :
    s'.1.closed = false := by
  rw [h.reader]
  exact hopen

/-- The bytes that were wanted have been brought, or bringing them has failed and the first of them are
lost: the cursor has moved past them. -/
inductive Brings (V : b.View) (want : Bytes) (s : Reader × World σ) :
    Except Failure Bytes × (Reader × World σ) → Prop where
  | all {s' : Reader × World σ} (h : MovedOn V s s' want.size) : Brings V want s (.ok want, s')
  | lost {s' : Reader × World σ} (e : Failure) {k : Nat} (hk : k ≤ want.size)
    (h : MovedOn V s s' k) : Brings V want s (.error (e.raisedIn .readRange s.1.object), s')

theorem Brings.counted {want : Bytes} {r : Except Failure Bytes} {c : Reader} {W : World σ}
    (h : Brings V want s (r, (c, W))) (f : Metrics → Metrics) :
    Brings V want s (r, (c, W.counted f)) := by
  cases h with
  | all h => exact .all ⟨h.reader, h.holds⟩
  | lost e hk h => exact .lost e hk ⟨h.reader, h.holds⟩

/-- What comes first has been brought already. -/
theorem Brings.prepend {first want : Bytes} (hfirst : MovedOn V s s' first.size)
    {r : Except Failure Bytes × (Reader × World σ)} (h : Brings V want s' r) :
    Brings V (first ++ want) s (r.1.map (first ++ ·), r.2) := by
  have hsize : (first ++ want).size = first.size + want.size := ByteArray.size_append
  cases h with
  | all h =>
    refine .all ?_
    rw [hsize]
    exact hfirst.trans h
  | lost e hk h =>
    have hobject : s'.1.object = s.1.object := by rw [hfirst.reader]
    rw [hobject]
    exact .lost e (by omega) (hfirst.trans h)

section

variable (hV : V.GivesAll honest) (hx : (V.holds s.2.store).object s.1.object = some x)

include hV hx

theorem fetch_brings (capacity : Nat) :
    ∃ got s', fetch b capacity s = (.ok got, s') ∧
      Brings V (wanted s x capacity) s (got.outcome.map fun _ => got.bytes, s') := by
  obtain ⟨r, W⟩ := s
  rcases hc : b.call (.get r.object (some (r.position, r.position + capacity))) W.store
    with ⟨stream, st⟩
  have hst : V.holds st = V.holds W.store := V.holds_get hc
  simp only [fetch, Action.bind_apply, World.log_apply, World.request_apply, World.logged_store, hc]
  cases stream with
  | error e =>
    refine ⟨_, _, rfl, .lost e (Nat.zero_le _) ⟨rfl, ?_⟩⟩
    rw [World.answered_store, World.logged_store, hc]
    exact hst
  | ok t =>
    obtain ⟨x', hx', hleft⟩ := V.get_ok hc
    obtain rfl : x = x' := by simpa [hx] using hx'
    have hleft : V.left t = wanted (r, W) x capacity := hleft
    obtain ⟨k, hk, hbytes, hall⟩ := drain_gives hV (hV.get hc) capacity .empty
    rw [ByteArray.empty_append] at hbytes
    have hroom : (wanted (r, W) x capacity).size ≤ capacity := by
      rw [wanted, Bytes.size_slice]
      omega
    rw [hleft] at hk hbytes hall
    generalize hd : drain b t capacity .empty = d at hbytes hall
    have hsize : d.bytes.size = k := by
      rw [hbytes, Bytes.take, Bytes.size_slice]
      omega
    rcases hclose : b.close d.stream st with ⟨closed, st'⟩
    have hst' : V.holds st' = V.holds W.store := (V.holds_close hclose).trans hst
    simp only [hd, World.onStore_apply, World.answered_store, World.logged_store, hc, hclose]
    refine ⟨_, _, rfl, ?_⟩
    -- the cursor is behind what has arrived, however the stream ended and closed
    have hmoved {W' : World σ} (hW' : W'.store = st') :
        MovedOn V (r, W) ({ r with position := r.position + d.bytes.size }, W') k :=
      ⟨by rw [hsize], by rw [hW']; exact hst'⟩
    cases closed with
    | error e => exact .lost e (by omega) (hmoved rfl)
    | ok _ =>
      cases hending : d.ending with
      | error e => exact .lost e (by omega) (hmoved rfl)
      | ok _ =>
        have hk' : k = (wanted (r, W) x capacity).size := by
          have hroom' := hall hending
          omega
        have hwhole : d.bytes = wanted (r, W) x capacity := by
          rw [hbytes, hk']
          exact Bytes.take_of_size_le (Nat.le_refl _)
        rw [hk'] at hmoved
        show Brings V (wanted (r, W) x capacity) (r, W) (.ok d.bytes, _)
        rw [hwhole] at hmoved ⊢
        exact .all (hmoved rfl)

theorem fetchUpTo_brings (hopen : s.1.closed = false) (capacity : Nat) :
    ∃ got s', fetchUpTo b capacity s = (.ok got, s') ∧
      Brings V (wanted s x capacity) s (got.outcome.map fun _ => got.bytes, s') := by
  by_cases hcapacity : capacity = 0
  · have hnone : wanted s x capacity = .empty := by
      apply Bytes.ext_toList
      simp [wanted, hcapacity, Bytes.toList_slice]
    rw [hnone]
    refine ⟨⟨.empty, .ok ()⟩, s, ?_, .all (.refl s)⟩
    simp only [fetchUpTo, Action.bind_apply, this_apply, hopen, hcapacity, ite_true,
      Bool.false_eq_true, ite_false]
    rfl
  · obtain ⟨got, s', hfetch, hbrings⟩ := fetch_brings hV hx capacity
    simp only [fetchUpTo, Action.bind_apply, this_apply, hopen, hcapacity, Bool.false_eq_true,
      ite_false, hfetch]
    cases hgot : got.outcome with
    | error e => exact ⟨got, s', rfl, hbrings⟩
    | ok _ => exact ⟨got, _, rfl, hbrings.counted _⟩

theorem readChunk_brings (hopen : s.1.closed = false) (capacity : Nat) :
    Brings V (wanted s x capacity) s (readChunk b capacity s) := by
  obtain ⟨got, s', hfetch, hbrings⟩ := fetchUpTo_brings hV hx hopen capacity
  simp only [readChunk, Action.bind_apply, hfetch, Action.ofExcept_apply]
  cases hgot : got.outcome <;> rw [hgot] at hbrings <;> exact hbrings

end

/-- Reading on comes to an end: with everything from the cursor on, or with a failure. -/
theorem readOn_brings (hV : V.GivesAll honest)
    (hx : (V.holds s.2.store).object s.1.object = some x) (hopen : s.1.closed = false)
    {capacity : Nat} (hc : 0 < capacity) (got : Bytes) :
    ∃ r, Brings V (x.data.drop s.1.position) s r ∧
      b.readOn capacity got s = some (r.1.map (got ++ ·), r.2) := by
  -- the bytes behind the cursor get fewer with every chunk that is not empty
  induction hn : x.data.size - s.1.position using Nat.strongRecOn generalizing s got with
  | _ n ih =>
    have hchunk := readChunk_brings hV hx hopen capacity
    have hsize : (wanted s x capacity).size =
        min (s.1.position + capacity) x.data.size - s.1.position := Bytes.size_slice ..
    have hdrop : x.data.drop s.1.position =
        wanted s x capacity ++ x.data.drop (s.1.position + (wanted s x capacity).size) :=
      Bytes.drop_eq_slice_append ..
    rw [Backend.readOn]
    generalize readChunk b capacity s = r at hchunk
    cases hchunk with
    | @lost s' e k hk hmoved =>
      refine ⟨_, .lost e (Nat.le_trans hk ?_) hmoved, rfl⟩
      rw [hdrop, ByteArray.size_append]
      exact Nat.le_add_right _ _
    | @all s' hmoved =>
      by_cases hempty : (wanted s x capacity).size = 0
      · have hisEmpty : (wanted s x capacity).isEmpty = true := Bytes.isEmpty_iff.mpr hempty
        have hnone : x.data.drop s.1.position = .empty :=
          ByteArray.size_eq_zero_iff.mp (by rw [Bytes.size_drop]; omega)
        rw [hempty] at hmoved
        refine ⟨(.ok .empty, s'), ?_, ?_⟩
        · rw [hnone]
          exact .all hmoved
        · simp only [hisEmpty, ite_true, Except.map, ByteArray.append_empty]
      · have hisEmpty : (wanted s x capacity).isEmpty = false := Bytes.isEmpty_eq_false hempty
        have hposition : s'.1.position = s.1.position + (wanted s x capacity).size := by
          rw [hmoved.reader]
        obtain ⟨r, hrest, hon⟩ := ih (x.data.size - s'.1.position) (by omega) (hmoved.content hx)
          (hmoved.isOpen hopen) (got ++ wanted s x capacity) rfl
        rw [hposition] at hrest
        refine ⟨(r.1.map (wanted s x capacity ++ ·), r.2), ?_, ?_⟩
        · rw [hdrop]
          exact hrest.prepend hmoved
        · simp only [hisEmpty, Bool.false_eq_true, ite_false, hon]
          cases r.1 <;> simp [Except.map, ByteArray.append_assoc]

/-! ## Reads -/

/-- The bytes that a read is to bring: at most so many from the cursor on, or all of them if the size is
negative or not given. -/
def sought (s : Reader × World σ) (x : StoredObject) (size : Option Int) : Bytes :=
  if size.getD (-1) < 0 then x.data.drop s.1.position else wanted s x (size.getD (-1)).toNat

/-- What a read can come to: there is no destination for it, or it brings what it is to bring or loses
some of that. -/
inductive ReadMove (V : b.View) (limits : Limits) (x : StoredObject) (size : Option Int)
    (s : Reader × World σ) : Except Failure Bytes × (Reader × World σ) → Prop where
  | noRoom {e}
    (h : limits.platform.capacity Capacity.maxSize (destination limits.readSize size) = .error e) :
    ReadMove V limits x size s (.error e, s)
  | ended {r} (h : Brings V (sought s x size) s r) : ReadMove V limits x size s r

theorem read_move (limits : Limits) (hsize : 1 ≤ limits.readSize) (hV : V.GivesAll honest)
    (hx : (V.holds s.2.store).object s.1.object = some x) (hopen : s.1.closed = false)
    (size : Option Int) : ReadMove V limits x size s (read b limits size s) := by
  rw [read_apply]
  cases hcap : limits.platform.capacity Capacity.maxSize (destination limits.readSize size) with
  | error e => exact .noRoom hcap
  | ok k =>
    obtain ⟨-, hk⟩ := Platform.of_capacity_ok hcap
    refine .ended ?_
    by_cases hn : size.getD (-1) < 0
    · have hpos : 0 < k := by
        rw [hk, destination, if_pos hn]
        omega
      obtain ⟨r, hbrings, hon⟩ := readOn_brings hV hx hopen hpos .empty
      have hsame : r.1.map (ByteArray.empty ++ ·) = r.1 := by
        cases r.1 <;> simp [Except.map]
      simp only [sought, hn, ite_true, hon, Option.getD_some, hsame]
      exact hbrings
    · have hdestination : k = (size.getD (-1)).toNat := by rw [hk, destination, if_neg hn]
      simp only [sought, hn, ite_false, hdestination]
      exact readChunk_brings hV hx hopen _

/-- A read whose first request is refused fails where it stands. -/
theorem read_of_refused (limits : Limits) (hopen : s.1.closed = false) {size : Option Int} {k : Nat}
    (hk : limits.platform.capacity Capacity.maxSize (destination limits.readSize size) = .ok k)
    (hpos : 0 < k) {f : Failure}
    (hrefused : (b.call (.get s.1.object (some (s.1.position, s.1.position + k))) s.2.store).1 =
      .error f) :
    ∃ W, read b limits size s = (.error (f.raisedIn .readRange s.1.object), (s.1, W)) := by
  obtain ⟨r, W⟩ := s
  have hroom : ¬k = 0 := by omega
  rcases hc : b.call (.get r.object (some (r.position, r.position + k))) W.store with ⟨y, st⟩
  obtain rfl : y = .error f := by simpa [hc] using hrefused
  obtain ⟨W', hfetch⟩ : ∃ W', fetch b k (r, W) =
      (.ok ⟨.empty, .error (f.raisedIn .readRange r.object)⟩, (r, W')) := by
    simp only [fetch, Action.bind_apply, World.log_apply, World.request_apply, World.logged_store, hc]
    exact ⟨_, rfl⟩
  have hchunk : readChunk b k (r, W) = (.error (f.raisedIn .readRange r.object), (r, W')) := by
    have hclosed : r.closed = false := hopen
    simp only [readChunk, fetchUpTo, Action.bind_apply, this_apply, hclosed, hroom,
      Bool.false_eq_true, ite_false, hfetch]
    rfl
  refine ⟨W', ?_⟩
  simp only [read_apply, hk, Backend.readOn, hchunk, Option.getD_some, ite_self]

/-! ## Runs of reads -/

/-- The bytes that a turn gave to its caller. -/
def received (t : Turn Reader σ) : Bytes :=
  match t.outcome with
  | .ok (.bytes data) => data
  | _ => .empty

/-- No turn that failed has moved the cursor. -/
def Lossless (ts : List (Turn Reader σ)) : Prop :=
  ∀ t ∈ ts, t.outcome.isOk = false → t.after.1.position = t.before.1.position

/-- The cursor has moved on, and bytes that it passed were received, in order. Where nothing was lost
these are all of them. -/
structure Passes (V : b.View) (x : StoredObject) (s s' : Reader × World σ) (got : Bytes)
    (lossless : Prop) : Prop where
  moved : ∃ n, MovedOn V s s' n
  inOrder : got.toList.Sublist (x.data.slice s.1.position s'.1.position).toList
  whole : lossless → s'.1.position = s.1.position + got.size

theorem Passes.refl (s : Reader × World σ) {lossless : Prop} :
    Passes V x s s .empty lossless where
  moved := ⟨0, .refl s⟩
  inOrder := List.nil_sublist _
  whole _ := rfl

theorem Passes.trans {s s' s'' : Reader × World σ} {got got' : Bytes} {p p' : Prop}
    (h : Passes V x s s' got p) (h' : Passes V x s' s'' got' p') :
    Passes V x s s'' (got ++ got') (p ∧ p') := by
  obtain ⟨n, hn⟩ := h.moved
  obtain ⟨m, hm⟩ := h'.moved
  have hs' : s'.1.position = s.1.position + n := by rw [hn.reader]
  have hs'' : s''.1.position = s.1.position + n + m := by rw [hm.reader, ← hs']
  have hfirst := h.inOrder
  have hsecond := h'.inOrder
  rw [hs'] at hfirst hsecond
  rw [hs''] at hsecond
  refine ⟨⟨n + m, hn.trans hm⟩, ?_, fun hp => ?_⟩
  · rw [hs'', Nat.add_assoc, ← Bytes.slice_append_slice, Bytes.toList_append, Bytes.toList_append]
    exact hfirst.append hsecond
  · have hsize := h.whole hp.1
    have hsize' := h'.whole hp.2
    rw [ByteArray.size_append]
    omega

/-- What is sought lies right behind the cursor. -/
theorem sought_eq (s : Reader × World σ) (x : StoredObject) (size : Option Int) :
    x.data.slice s.1.position (s.1.position + (sought s x size).size) = sought s x size := by
  apply Bytes.ext_toList
  unfold sought
  split
  · rw [Bytes.toList_slice, List.drop_take, Nat.add_sub_cancel_left, Bytes.toList_drop,
      Bytes.size_drop, List.take_of_length_le (by simp)]
  · simp only [wanted, Bytes.toList_slice, List.drop_take, Nat.add_sub_cancel_left, Bytes.size_slice,
      List.take_eq_take_iff, List.length_drop, Bytes.length_toList]
    omega

/-- What one read passes. -/
theorem ReadMove.passes {limits : Limits} {size : Option Int}
    {r : Except Failure Bytes × (Reader × World σ)} (h : ReadMove V limits x size s r) :
    Passes V x s r.2 (match r.1 with | .ok data => data | .error _ => .empty)
      (∀ f, r.1 = .error f → r.2.1.position = s.1.position) := by
  cases h with
  | noRoom => exact .refl s
  | ended h =>
    cases h with
    | @all s' hmoved =>
      have hposition : s'.1.position = s.1.position + (sought s x size).size := by rw [hmoved.reader]
      refine ⟨⟨_, hmoved⟩, ?_, fun _ => hposition⟩
      simp only [hposition, sought_eq]
      exact List.Sublist.refl _
    | lost e hk hmoved => exact ⟨⟨_, hmoved⟩, List.nil_sublist _, fun h => h _ rfl⟩

theorem performReader_read (e : Channel.Setting σ τ) (size : Option Int) (s : Reader × World σ) :
    Channel.performReader e (.read size) s =
      ((read e.backend e.limits size s).1.map Answer.bytes, (read e.backend e.limits size s).2) := by
  simp only [Channel.performReader, Action.bind_apply]
  rcases read e.backend e.limits size s with ⟨_ | _, _⟩ <;> rfl

/-- A turn in which a reader reads. -/
def readTurn (e : Channel.Setting σ τ) (size : Option Int) (s : Reader × World σ) :
    Turn Reader σ where
  operation := .read size
  before := s
  outcome := (Channel.performReader e (.read size) s).1
  after := (Channel.performReader e (.read size) s).2

section

variable (e : Channel.Setting σ τ) {V : e.backend.View} (hV : V.GivesAll honest)
  (hsize : 1 ≤ e.limits.readSize) (hx : (V.holds s.2.store).object s.1.object = some x)
  (hopen : s.1.closed = false)

include hV hsize hx hopen

theorem readTurn_passes (size : Option Int) :
    Passes V x s (readTurn e size s).after (received (readTurn e size s))
      (Lossless [readTurn e size s]) := by
  have hmove := (read_move e.limits hsize hV hx hopen size).passes
  have hturn : readTurn e size s = ⟨.read size, s, (read e.backend e.limits size s).1.map .bytes,
      (read e.backend e.limits size s).2⟩ := by
    rw [readTurn, performReader_read]
  rw [hturn]
  generalize read e.backend e.limits size s = r at hmove
  rcases r with ⟨f | data, s'⟩
  · refine ⟨hmove.moved, hmove.inOrder, fun hl => hmove.whole fun _ _ => ?_⟩
    exact hl _ (.head _) rfl
  · exact ⟨hmove.moved, hmove.inOrder, fun _ => hmove.whole fun _ h => by cases h⟩

/-- A run of reads passes what its turns received. -/
theorem reads_passes (sizes : List (Option Int)) :
    Passes V x s (final (Channel.performReader e) (sizes.map .read) s)
      (.concat ((turns (Channel.performReader e) (sizes.map .read) s).map received))
      (Lossless (turns (Channel.performReader e) (sizes.map .read) s)) := by
  induction sizes generalizing s with
  | nil => exact .refl s
  | cons size sizes ih =>
    have hfirst := readTurn_passes e hV hsize hx hopen size
    obtain ⟨n, hmoved⟩ := hfirst.moved
    have hrest := ih (hmoved.content hx) (hmoved.isOpen hopen)
    have hboth := hfirst.trans hrest
    rw [← Bytes.concat_cons] at hboth
    refine { hboth with whole := fun hl => hboth.whole ⟨?_, ?_⟩ }
    · intro t ht
      rw [List.mem_singleton.mp ht]
      exact hl _ (.head _)
    · exact fun t ht => hl t (.tail _ ht)

/-- A turn of such a run is a read that starts where the reads before it have led. -/
theorem of_mem_reads {sizes : List (Option Int)} {t : Turn Reader σ}
    (ht : t ∈ turns (Channel.performReader e) (sizes.map .read) s) :
    ∃ size n, t = readTurn e size t.before ∧ MovedOn V s t.before n := by
  obtain ⟨ops, ops', hops, hbefore, hperform⟩ := of_mem_turns _ ht
  obtain ⟨sizes₁, rest, rfl, rfl, hrest⟩ := List.map_eq_append_iff.mp hops
  obtain ⟨size, sizes₂, rfl, hsize', rfl⟩ := List.map_eq_cons_iff.mp hrest
  obtain ⟨n, hmoved⟩ := (reads_passes e hV hsize hx hopen sizes₁).moved
  refine ⟨size, n, ?_, by rw [hbefore]; exact hmoved⟩
  obtain ⟨op, before, outcome, after⟩ := t
  obtain rfl : Operation.read size = op := hsize'
  have hperform : Channel.performReader e (.read size) before = (outcome, after) := hperform
  rw [readTurn, hperform]

end

/-- **Reads bring what there is, in order.** Each read brings all that it asks for, or it fails and the
cursor has moved past no more than that; what the reads bring has no byte twice and none out of its
place. A read whose first request is refused has not moved the cursor, and where none of the reads that
failed has moved it, nothing is missing, and the cursor is behind the bytes that were read. -/
theorem reads_in_order (e : Channel.Setting σ τ) (V : e.backend.View) (hV : V.GivesAll honest)
    {o : ObjectId} {x : StoredObject} {p : Int} {r : Reader} {W : World σ}
    (hx : (V.holds W.store).object o = some x) (hsize : 1 ≤ e.limits.readSize)
    (hr : opened o p = .ok r) (sizes : List (Option Int)) :
    let ts := turns (Channel.performReader e) (sizes.map .read) (r, W)
    let s := final (Channel.performReader e) (sizes.map .read) (r, W)
    let got := Bytes.concat (ts.map received)
    (∀ t ∈ ts, ∃ size y, t.operation = .read size ∧ t.outcome = y.map Answer.bytes ∧
      ReadMove V e.limits x size t.before (y, t.after) ∧
      ∀ k f, e.limits.platform.capacity Capacity.maxSize (destination e.limits.readSize size) = .ok k →
        0 < k → (e.backend.call (.get o (some (t.before.1.position, t.before.1.position + k)))
          t.before.2.store).1 = .error f → t.after.1 = t.before.1) ∧
    got.toList.Sublist (x.data.slice p.toNat s.1.position).toList ∧
    Channel.performReader e .tell s = (.ok (.count s.1.position), s) ∧
    (Lossless ts → got = x.data.slice p.toNat (p.toNat + got.size) ∧
      s.1.position = p.toNat + got.size) := by
  intro ts s got
  obtain rfl : r = { object := o, position := p.toNat } := by
    unfold opened at hr
    split at hr
    · cases hr
    · exact (Except.ok.inj hr).symm
  have hpasses : Passes V x _ s got (Lossless ts) := reads_passes e hV hsize hx rfl sizes
  obtain ⟨n, hmoved⟩ := hpasses.moved
  refine ⟨fun t ht => ?_, hpasses.inOrder, ?_, fun hl => ?_⟩
  · obtain ⟨size, m, hturn, hbefore⟩ := of_mem_reads e hV hsize hx rfl ht
    have hopen := hbefore.isOpen rfl
    have hobject : t.before.1.object = o := by rw [hbefore.reader]
    have hmove := read_move e.limits hsize hV (hbefore.content hx) hopen size
    rw [hturn]
    refine ⟨size, (read e.backend e.limits size t.before).1, rfl, ?_, ?_, ?_⟩
    · simp only [readTurn, performReader_read]
    · simpa only [readTurn, performReader_read] using hmove
    · intro k f hk hpos hrefused
      rw [← hobject] at hrefused
      obtain ⟨W', hread⟩ := read_of_refused e.limits hopen hk hpos hrefused
      simp only [readTurn, performReader_read, hread]
  · have hopen := hmoved.isOpen rfl
    simp only [Channel.performReader, tell, Action.bind_apply, requireOpen_apply, hopen, this_apply]
    rfl
  · have hposition : s.1.position = p.toNat + got.size := hpasses.whole hl
    refine ⟨?_, hposition⟩
    have horder : got.toList.Sublist (x.data.slice p.toNat s.1.position).toList := hpasses.inOrder
    rw [hposition] at horder
    apply Bytes.ext_toList
    refine horder.eq_of_length_le ?_
    rw [Bytes.length_toList, Bytes.length_toList, Bytes.size_slice]
    omega

/-- A store in memory that refuses the first request for the object. The first stream breaks off at
once, and the others deliver two bytes at a time. -/
def failingFirst : Channel.Setting Store.MemoryStore Store.Stream where
  backend := Store.memoryBackend
    (.ofRules [{ method := .get, call := some 1, fate := .raise (.store "refused" none) }])
    (.ofList [{ failAfter := some 0 }] { chunk := some 2 })

/-- A reader at the start of five bytes. -/
def atStart : Reader × World Store.MemoryStore := ({ object := ⟨"bucket", "key"⟩ }, fiveBytes)

theorem reads_in_order_despite_failures :
    let ops := [some 3, some 3, some 2, none].map Operation.read
    let ts := turns (Channel.performReader failingFirst) ops atStart
    ts.map (·.outcome.isOk) = [false, false, true, true] ∧ Lossless ts ∧
      Bytes.concat (ts.map received) = ⟨#[1, 2, 3, 4, 5]⟩ ∧
      (final (Channel.performReader failingFirst) ops atStart).1.position = 5 := by
  intro ops ts
  have hchunks (n : Nat) :
      (Store.StreamPlan.ofList [{ failAfter := some 0 }] { chunk := some 2 } n).chunk ≠ some 0 := by
    cases n <;> simp [Store.StreamPlan.ofList]
  have hgives := Store.memoryView_givesAll
    (.ofRules [{ method := .get, call := some 1, fate := .raise (.store "refused" none) }]) _ hchunks
  have hsize : (Bytes.concat (ts.map received)).size = 5 := by cbv
  have hlossless : Lossless ts := by
    have hall : ts.all (fun t => t.outcome.isOk || t.after.1.position == t.before.1.position) := by
      cbv
    intro t ht hfailed
    simpa [hfailed] using List.all_eq_true.mp hall t ht
  have hwhole : Bytes.concat (ts.map received) =
        Bytes.slice ⟨#[1, 2, 3, 4, 5]⟩ 0 (0 + (Bytes.concat (ts.map received)).size) ∧
      (final (Channel.performReader failingFirst) ops atStart).1.position =
        0 + (Bytes.concat (ts.map received)).size :=
    (reads_in_order failingFirst _ hgives (o := ⟨"bucket", "key"⟩) (W := fiveBytes) (p := 0)
      (x := { data := ⟨#[1, 2, 3, 4, 5]⟩ }) rfl (by decide) rfl _).2.2.2 hlossless
  rw [hsize] at hwhole
  exact ⟨by cbv, hlossless, hwhole.1, hwhole.2⟩

/-- A store in memory whose first stream breaks off after two bytes. -/
def breakingFirst : Channel.Setting Store.MemoryStore Store.Stream where
  backend := Store.memoryBackend .none (.ofList [{ failAfter := some 2 }] {})

/-- A read of four bytes fails after two of them have arrived, and the next one goes on behind these: it
brings the last three of five bytes, and the cursor is at the end. -/
theorem arrived_bytes_lost :
    let ops := [some 4, none].map Operation.read
    let ts := turns (Channel.performReader breakingFirst) ops atStart
    let got := Bytes.concat (ts.map received)
    ts.map (·.outcome.isOk) = [false, true] ∧ got = ⟨#[3, 4, 5]⟩ ∧
      Bytes.slice ⟨#[1, 2, 3, 4, 5]⟩ 0 got.size = ⟨#[1, 2, 3]⟩ ∧
      (final (Channel.performReader breakingFirst) ops atStart).1.position = 5 := by
  refine ⟨?_, ?_, ?_, ?_⟩ <;> cbv

end ObjectChannel.Reader
