/-
Reading to the end over streams that end early. Each request brings first bytes of the range that it is
for, perhaps few of them, but at least one where there is one. The read goes on behind what has arrived,
so that it brings all that is left, with at most one request for each byte and one that brings nothing.
-/
import ObjectChannel.Proofs.Reader.Arrival
import ObjectChannel.Proofs.Reader.Loss

namespace ObjectChannel

variable {σ τ : Type} {b : Backend σ τ} {content : Bytes}

/-- A stream that ends well, and has given first bytes of a range of some content by then: at least one,
unless no part of the content lies there. -/
structure Backend.EndsEarly (b : Backend σ τ) (content : Bytes) (start stop : Nat) (t : τ)
    (chunks : List Bytes) (t' : τ) : Prop where
  gives : ∃ end', b.Gives t (stop - start) chunks end' t' ∧ end'.failure? = none
  isFirst : (Bytes.concat chunks).toList <+: (content.slice start stop).toList
  some_of_some : (content.slice start stop).size ≠ 0 → (Bytes.concat chunks).size ≠ 0

/-- Every request for a range of the object is answered with a stream that ends well, though perhaps
early, as long as the store is `ready`, and it stays so. -/
structure Backend.GivesSome (b : Backend σ τ) (o : ObjectId) (content : Bytes) (ready : σ → Prop) :
    Prop where
  get : ∀ {s start stop}, ready s → start < stop → ∃ t s', ready s' ∧
    b.call (.get o (some (start, stop))) s = (.ok t, s') ∧
    ∃ chunks t' s'', b.EndsEarly content start stop t chunks t' ∧
      b.close t' s' = (.ok (), s'') ∧ ready s''

/-- Requests for ranges of `n` bytes, one after the other, each of which starts where the bytes that have
arrived so far end. `parts` are the bytes that each of them brings. -/
inductive Backend.Fetches (b : Backend σ τ) (o : ObjectId) (n : Nat) :
    (position : Nat) → (passed : List (Exchange τ)) → (parts : List Bytes) → Prop where
  | nil {position} : Fetches b o n position [] []
  | cons {position t chunks stop t' passed parts} (hgives : b.Gives t n chunks stop t')
    (rest : Fetches b o n (position + (Bytes.concat chunks).size) passed parts) :
    Fetches b o n position
      (.call (.get o (some (position, position + n))) (.ok t) :: .closing t' (.ok ()) :: passed)
      (Bytes.concat chunks :: parts)

namespace Reader

open ChannelAction

variable {o : ObjectId} {ready : σ → Prop} {r : Reader} {W : World (Recorded σ τ)}

/-- One fetch of a read: it brings some of what lies behind the cursor. -/
theorem readChunk_of_early (hb : b.GivesSome r.object content ready) (hopen : r.closed = false)
    (hready : ready W.store.store) {n : Nat} (hn : 0 < n) :
    ∃ t chunks stop t' W', b.Gives t n chunks stop t' ∧ ready W'.store.store ∧
      readChunk b.recorded n (r, W) = (.ok (Bytes.concat chunks),
        ({ r with position := r.position + (Bytes.concat chunks).size }, W')) ∧
      W'.store.log = W.store.log ++ [.call (rangeRequest r n) (.ok t), .closing t' (.ok ())] ∧
      (Bytes.concat chunks).toList <+: content.toList.drop r.position ∧
      (r.position < content.size → (Bytes.concat chunks).size ≠ 0) := by
  obtain ⟨t, s, -, hcall, chunks, t', s', hearly, hclose, hready'⟩ :=
    hb.get hready (show r.position < r.position + n by omega)
  obtain ⟨stop, hgives, hend⟩ := hearly.gives
  rw [Nat.add_sub_cancel_left] at hgives
  have hrecorded : b.recorded.call (rangeRequest r n) W.store =
      (.ok t, ⟨s, W.store.log ++ [.call (rangeRequest r n) (.ok t)]⟩) := by
    simp only [Backend.recorded, rangeRequest, hcall]
  obtain ⟨outcome, W', hfetch, houtcome, hstore⟩ :=
    fetchUpTo_of_gives hopen (by omega) hrecorded hgives.recorded
  simp only [Backend.recorded, hclose] at houtcome hstore
  obtain ⟨u, rfl⟩ : ∃ u, outcome = .ok u := by
    cases outcome with
    | ok u => exact ⟨u, rfl⟩
    | error e => simp [cause?, failureOf, hend, verdict, Except.map] at houtcome
  refine ⟨t, chunks, stop, t', W', hgives, ?_, readChunk_apply hfetch, ?_, ?_, fun hmore => ?_⟩
  · rw [hstore]
    exact hready'
  · rw [hstore]
    simp
  · have hfirst := hearly.isFirst
    rw [Bytes.toList_slice, List.drop_take] at hfirst
    exact hfirst.trans (List.take_prefix _ _)
  · refine hearly.some_of_some ?_
    rw [Bytes.size_slice]
    omega

/-- First bytes of what lies behind a position, and what lies behind those. -/
theorem append_drop_of_isFirst {part : Bytes} {position : Nat}
    (h : part.toList <+: content.toList.drop position) :
    part ++ content.drop (position + part.size) = content.drop position := by
  obtain ⟨rest, hrest⟩ := h
  apply Bytes.ext_toList
  rw [Bytes.toList_append, Bytes.toList_drop, Bytes.toList_drop, ← List.drop_drop, ← hrest,
    ← Bytes.length_toList, List.drop_left]

/-- Reading on comes to an end, with everything from the cursor on. -/
theorem readOn_of_early (hb : b.GivesSome r.object content ready) (hopen : r.closed = false)
    (hready : ready W.store.store) {n : Nat} (hn : 0 < n) (got : Bytes) :
    ∃ passed parts W',
      b.recorded.readOn n got (r, W) = some (.ok (got ++ content.drop r.position),
        ({ r with position := max r.position content.size }, W')) ∧
      W'.store.log = W.store.log ++ passed ∧ b.Fetches r.object n r.position passed parts ∧
      Bytes.concat parts = content.drop r.position ∧
      parts.length ≤ content.size - r.position + 1 := by
  -- the bytes behind the cursor get fewer with every chunk that is not empty
  induction hleft : content.size - r.position using Nat.strongRecOn generalizing r W got with
  | _ left ih =>
    obtain ⟨t, chunks, stop, t', W', hgives, hready', hread, hpassed, hfirst, hsome⟩ :=
      readChunk_of_early hb hopen hready hn
    have hdrop := append_drop_of_isFirst hfirst
    have hsize : (Bytes.concat chunks).size ≤ content.size - r.position := by
      simpa using hfirst.length_le
    rw [Backend.readOn, hread]
    by_cases hempty : (Bytes.concat chunks).size = 0
    · have hisEmpty : (Bytes.concat chunks).isEmpty = true := Bytes.isEmpty_iff.mpr hempty
      have hend : content.size ≤ r.position := by
        by_contra hmore
        exact hsome (by omega) hempty
      have hnone : content.drop r.position = .empty :=
        ByteArray.size_eq_zero_iff.mp (by rw [Bytes.size_drop]; omega)
      have hchunk : Bytes.concat chunks = .empty := ByteArray.size_eq_zero_iff.mp hempty
      simp only [hisEmpty, ite_true, hnone, ByteArray.append_empty, hempty, Nat.add_zero,
        Nat.max_eq_left hend]
      refine ⟨_, _, W', rfl, hpassed, .cons hgives .nil, ?_, by simp⟩
      rw [hchunk]
      rfl
    · have hisEmpty : (Bytes.concat chunks).isEmpty = false := Bytes.isEmpty_eq_false hempty
      obtain ⟨passed, parts, W'', hrest, hpassed', hfetches, hparts, hcount⟩ :=
        ih (content.size - (r.position + (Bytes.concat chunks).size)) (by omega)
          (r := { r with position := r.position + (Bytes.concat chunks).size }) hb hopen hready'
          (got ++ Bytes.concat chunks) rfl
      simp only at hrest hfetches hparts hcount
      simp only [hisEmpty, Bool.false_eq_true, ite_false, hrest]
      refine ⟨_, Bytes.concat chunks :: parts, W'', ?_, ?_, .cons hgives hfetches, ?_, ?_⟩
      · rw [ByteArray.append_assoc, hdrop, Nat.max_eq_right (by omega), Nat.max_eq_right (by omega)]
      · rw [hpassed', hpassed, List.append_assoc]
        rfl
      · rw [Bytes.concat_cons, hparts, hdrop]
      · rw [List.length_cons]
        omega

/-- **A read to the end brings all that is left, though its streams end early.** Each request starts where
the bytes that have arrived so far end; together they bring the bytes from the cursor to the end of the
content, once each, and there is at most one request for each of these and one more. The read itself is
that loop, if a destination of the read size can be made. -/
theorem reads_to_end (hb : b.GivesSome r.object content ready) (hopen : r.closed = false)
    (hready : ready W.store.store) (limits : Limits) (hsize : 1 ≤ limits.readSize) (size : Option Int)
    (hrest : size.getD (-1) < 0) :
    ∃ passed parts W',
      let told : Except Failure Bytes × (Reader × World (Recorded σ τ)) :=
        (.ok (content.drop r.position), ({ r with position := max r.position content.size }, W'))
      b.recorded.readOn limits.readSize.toNat .empty (r, W) = some told ∧
      read b.recorded limits size (r, W) =
        (match limits.platform.capacity Capacity.maxSize limits.readSize with
        | .ok _ => told
        | .error e => (.error e, (r, W))) ∧
      W'.store.log = W.store.log ++ passed ∧
      b.Fetches r.object limits.readSize.toNat r.position passed parts ∧
      Bytes.concat parts = content.drop r.position ∧
      parts.length ≤ content.size - r.position + 1 := by
  obtain ⟨passed, parts, W', hon, hpassed, hfetches, hparts, hcount⟩ :=
    readOn_of_early hb hopen hready (show 0 < limits.readSize.toNat by omega) .empty
  rw [ByteArray.empty_append] at hon
  refine ⟨passed, parts, W', hon, ?_, hpassed, hfetches, hparts, hcount⟩
  rw [read_apply, destination, if_pos hrest]
  cases hcapacity : limits.platform.capacity Capacity.maxSize limits.readSize with
  | error e => rfl
  | ok k =>
    obtain ⟨-, rfl⟩ := Platform.of_capacity_ok hcapacity
    simp only [hrest, ite_true, hon, Option.getD_some]

/-- A store of one object whose streams end after one, two or three bytes, in turn. -/
def brief (content : Bytes) : Backend Nat Bytes where
  name := "brief"
  call
    | .get _ (some (start, stop)) => fun s => (.ok ((content.slice start stop).take (s % 3 + 1)), s + 1)
    | _ => Action.fail (.storage "unsupported" none)
  read t n := .ok (t.take (n.getD t.size), t.drop (n.getD t.size))
  close _ := Action.pure ()

theorem brief_gives (content : Bytes) {t : Bytes} {room : Nat} (hfits : t.size ≤ room) :
    ∃ chunks stop t', (brief content).Gives t room chunks stop t' ∧ stop.failure? = none ∧
      Bytes.concat chunks = t := by
  by_cases hroom : room = 0
  · have hnone : t = .empty := ByteArray.size_eq_zero_iff.mp (by omega)
    subst hroom hnone
    exact ⟨_, _, _, .full, rfl, rfl⟩
  have hread : (brief content).read t (some room) = .ok (t, t.drop room) := by
    simp only [brief, Option.getD_some, Bytes.take_of_size_le hfits]
  by_cases hnone : t.size = 0
  · exact ⟨_, _, _, .drained hroom hread hnone, rfl, (ByteArray.size_eq_zero_iff.mp hnone).symm⟩
  have hconcat : Bytes.concat [t] = t := ByteArray.empty_append
  by_cases hfull : room - t.size = 0
  · have hrest : (brief content).Gives (t.drop room) (room - t.size) [] .full (t.drop room) := by
      rw [hfull]
      exact .full
    exact ⟨_, _, _, .more hread hnone hfits hrest, rfl, hconcat⟩
  · have hdrained : ((t.drop room).take (room - t.size)).size = 0 := by
      rw [Bytes.take, Bytes.size_slice, Bytes.size_drop]
      omega
    exact ⟨_, _, _, .more hread hnone hfits (.drained hfull rfl hdrained), rfl, hconcat⟩

theorem brief_givesSome (content : Bytes) (o : ObjectId) :
    (brief content).GivesSome o content fun _ => True where
  get {s start stop} _ _ := by
    have hfits : ((content.slice start stop).take (s % 3 + 1)).size ≤ stop - start := by
      rw [Bytes.take, Bytes.size_slice, Bytes.size_slice]
      omega
    obtain ⟨chunks, stop', t', hgives, hend, hconcat⟩ := brief_gives content hfits
    refine ⟨_, _, trivial, rfl, chunks, t', _, ⟨⟨stop', hgives, hend⟩, ?_, fun hsome => ?_⟩, rfl, trivial⟩
    · rw [hconcat, Bytes.toList_take]
      exact List.take_prefix _ _
    · rw [hconcat, Bytes.take, Bytes.size_slice]
      omega

/-- The last five of six bytes, for which up to four are asked for at a time: one request brings two of
them and the next one three. -/
theorem reads_to_end_of_brief_streams :
    let content : Bytes := ⟨#[1, 2, 3, 4, 5, 6]⟩
    let r : Reader := { object := ⟨"bucket", "key"⟩, position := 1 }
    let W : World (Recorded Nat Bytes) := { store := { store := 1 } }
    ∃ W', read (brief content).recorded { readSize := 4 } none (r, W) =
        (.ok ⟨#[2, 3, 4, 5, 6]⟩, ({ r with position := 6 }, W')) ∧
      ∃ parts, Bytes.concat parts = ⟨#[2, 3, 4, 5, 6]⟩ ∧ parts.length ≤ 6 := by
  intro content r W
  obtain ⟨passed, parts, W', -, hread, -, -, hparts, hcount⟩ :=
    reads_to_end (brief_givesSome content r.object) (r := r) (W := W) rfl trivial
      { readSize := 4 } (by decide) none (by decide)
  have hdrop : content.drop r.position = ⟨#[2, 3, 4, 5, 6]⟩ := by decide +kernel
  rw [hdrop] at hread hparts
  exact ⟨W', hread, parts, hparts, hcount⟩

/-- A read size that no destination can have is refused before anything is asked for, though the streams
would bring all that is left. -/
theorem read_without_destination :
    let content : Bytes := ⟨#[97, 98, 99]⟩
    let r : Reader := { object := ⟨"b", "k"⟩ }
    let W : World (Recorded Nat Bytes) := { store := { store := 0 } }
    (brief content).GivesSome r.object content (fun _ => True) ∧
      read (brief content).recorded { readSize := 9223372036854775808 } none (r, W) =
        (.error .outOfRange, (r, W)) :=
  ⟨brief_givesSome _ _, rfl⟩

end Reader

end ObjectChannel
