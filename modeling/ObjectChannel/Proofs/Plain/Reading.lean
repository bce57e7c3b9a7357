/-
What is read of an object that is there, over a plain store: a reader brings the stretch that it was
asked for, and a mirror that is opened for reading brings everything, whatever the sizes that they read
in. The store has the same bare contents afterwards.
-/
import ObjectChannel.Proofs.Mirrored.Effect
import ObjectChannel.Proofs.Plain.Mirrored
import ObjectChannel.Proofs.Plain.Publication
import ObjectChannel.Proofs.Plain.Reader

namespace ObjectChannel

/-- The bytes from a position on: at most so many, or all of them if the number is negative. -/
def Bytes.stretch (data : Bytes) (offset : Nat) (length : Int) : Bytes :=
  if length < 0 then data.drop offset else data.slice offset (offset + length.toNat)

variable {σ τ : Type} {b : Backend σ τ} {P : b.Plain} {W : World σ} {x : StoredObject}

namespace Reader

open ChannelAction

/-- A fetch from an object that is there comes to a stretch of it. -/
theorem fetched_of_object {c : Store.Contents} {r : Reader} (hopen : r.closed = false)
    (hx : c.object? r.object = some x) (capacity : Nat) :
    fetched c r capacity = ⟨x.data.slice r.position (r.position + capacity), .ok ()⟩ := by
  simp only [fetched, hopen, hx, Bool.false_eq_true, ite_false]
  split
  · next h =>
    have hnone : (x.data.slice r.position (r.position + 0)).size = 0 := by
      rw [Bytes.size_slice]
      omega
    rw [h, ByteArray.size_eq_zero_iff.mp hnone]
  · rfl

variable {r : Reader}

theorem readChunk_of_object (capacity : Nat) (hopen : r.closed = false)
    (hx : (P.contents W.store).object? r.object = some x)
    (hreach : 0 < capacity → P.Reaches (r.position + capacity)) :
    ∃ W', readChunk b capacity (r, W) =
        (.ok (x.data.slice r.position (r.position + capacity)),
          ({ r with
            position := r.position + (x.data.slice r.position (r.position + capacity)).size }, W')) ∧
      P.Untouched W W' := by
  obtain ⟨f, W', hfetch, hf, -, hW'⟩ := fetchUpTo_of_reaches W fun _ => hreach
  rw [fetched_of_object hopen hx] at hf
  obtain ⟨hbytes, ⟨-, ho⟩ | ⟨_, _, ho, -⟩⟩ :=
    Fetched.of_bare_eq (f := ⟨x.data.slice r.position (r.position + capacity), .ok ()⟩) hf
  · refine ⟨W', ?_, hW'⟩
    rw [readChunk_apply hfetch, behind, ho, hbytes]
    rfl
  · cases ho

/-- Reading on comes to an end, with everything from the cursor on. -/
theorem readOn_of_object {capacity : Nat} (hopen : r.closed = false)
    (hx : (P.contents W.store).object? r.object = some x) (hc : 0 < capacity)
    (hreach : ∀ j ≤ max r.position x.data.size + capacity, P.Reaches j) (got : Bytes) :
    ∃ s', b.readOn capacity got (r, W) = some (.ok (got ++ x.data.drop r.position), s') ∧
      P.Untouched W s'.2 := by
  -- no chunk takes the cursor beyond the end, so that all ranges can be asked for
  let Inv (s : Reader × World σ) : Prop :=
    (s.1.object = r.object ∧ s.1.closed = false ∧ s.1.position ≤ max r.position x.data.size) ∧
      P.Untouched W s.2
  have hchunk : ∀ s, Inv s → ∃ s',
      readChunk b capacity s = (.ok (x.data.slice s.1.position (s.1.position + capacity)), s') ∧
        s'.1.position =
          s.1.position + (x.data.slice s.1.position (s.1.position + capacity)).size ∧ Inv s' := by
    rintro ⟨r', W'⟩ ⟨⟨hobject, hopen', hposition⟩, hW'⟩
    obtain ⟨W'', hread, hW''⟩ := readChunk_of_object (r := r') (W := W') capacity hopen'
      (by rw [hW'.contents, hobject]; exact hx) fun _ => hreach _ (by dsimp only at hposition; omega)
    refine ⟨_, hread, rfl, ⟨hobject, hopen', ?_⟩, hW'.trans hW''⟩
    have hsize : (x.data.slice r'.position (r'.position + capacity)).size =
        min (r'.position + capacity) x.data.size - r'.position := Bytes.size_slice ..
    dsimp only at hposition ⊢
    omega
  obtain ⟨s', hon, -, -, hW'⟩ :=
    readOn_of_chunks (s := (r, W)) hc hchunk ⟨⟨rfl, hopen, Nat.le_max_left ..⟩, .refl W⟩ got
  exact ⟨s', hon, hW'⟩

/-- Where the last range ends that a reader asks for to bring a stretch. -/
def furthest (limits : Limits) (data : Bytes) (offset : Nat) (length : Int) : Nat :=
  if length < 0 then max offset data.size + limits.readSize.toNat else offset + length.toNat

/-- **A reader brings the stretch that it was asked for**, as long as there is room for it and the
store can be asked for its ranges. -/
theorem read_of_object {limits : Limits} {length : Int} (hopen : r.closed = false)
    (hx : (P.contents W.store).object? r.object = some x)
    (hread : 0 < limits.readSize) (hroom : limits.platform.HasRoom limits.readSize)
    (hlength : length ≤ limits.platform.room)
    (hreach : length ≠ 0 → ∀ j ≤ furthest limits x.data r.position length, P.Reaches j) :
    ∃ s', read b limits (some length) (r, W) = (.ok (x.data.stretch r.position length), s') ∧
      P.Untouched W s'.2 := by
  unfold read Bytes.stretch
  by_cases hnegative : length < 0
  · simp only [furthest, hnegative, ite_true] at hreach ⊢
    have hpos : 0 < limits.readSize.toNat := by omega
    obtain ⟨s', hon, hs'⟩ := readOn_of_object hopen hx hpos (hreach (by omega)) .empty
    refine ⟨s', ?_, hs'⟩
    rw [readRest_apply, hroom.capacity hroom.le_maxSize]
    simp only [hon, Option.getD_some, ByteArray.empty_append]
  · simp only [furthest, hnegative, ite_false] at hreach ⊢
    obtain ⟨W', hchunk, hW'⟩ := readChunk_of_object length.toNat hopen hx
      fun hpos => hreach (by omega) _ (Nat.le_refl _)
    have hlengthRoom : limits.platform.HasRoom length := ⟨Int.not_lt.mp hnegative, hlength⟩
    simp only [Action.bind_apply, Action.ofExcept_apply,
      hlengthRoom.capacity hlengthRoom.le_maxSize]
    rw [hchunk]
    exact ⟨_, rfl, hW'⟩

end Reader

namespace Mirrored

open ChannelAction

variable {o : ObjectId} {os : OpenOptions}

/-- A mirror that is opened for reading an object that is there has all of its bytes. -/
theorem open_of_object (limits : Limits) {q : OpenRequest} (hos : OpenOptions.ofGiven q.options = .ok os)
    (hread : os.isReadOnly = true) (hx : (P.contents W.store).object? o = some x)
    (hd : q.directory.all W.mirrors.hasDirectory = true) :
    ∃ W', Mirrored.open b limits o q W =
        (.ok (ofContent o q os (W.mirrors.fresh q.directory) x.data), W') ∧
      P.contents W'.store = P.contents W.store ∧ W'.mirrors = W.mirrors.create q.directory := by
  obtain ⟨h, hcall, hfound, hstore⟩ := Writer.answered_of_fits P W (r := .head o) trivial
  have hprobe : probe b o W = (.ok true, W.answered b (.head o)) := by
    have hthere : h.found = true := by
      rw [show h.found = _ from hfound, hx]
      rfl
    simp only [probe, Action.bind_apply, Action.mapFailure_apply, World.request_apply, hcall]
    exact Prod.ext (congrArg Except.ok hthere) rfl
  have hexisting : existing b o os W = (.ok true, W.answered b (.head o)) := by
    rw [existing_of_probe (OpenOptions.has_of_isReadOnly hread (by decide)) hprobe]
    simp [verdict, OpenOptions.has_of_isReadOnly hread (o := .createNew) (by decide)]
  have hmirrors := W.answered_mirrors b (.head o)
  simp only [Mirrored.open, Action.bind_apply, Action.ofExcept_apply, hos, hexisting,
    World.createMirror, hmirrors, hd, ite_true, Action.onFailure_apply]
  generalize hW₁ : World.mk _ _ _ _ _ = W₁
  have hcontents : P.contents W₁.store = P.contents W.store := by rw [← hW₁]; exact hstore
  obtain ⟨W', hdownload, hW'⟩ := download_of_object (P := P) limits
    ⟨W.mirrors.next, q.directory⟩ (W := W₁) (by rw [hcontents]; exact hx)
  simp only [hdownload, Action.pure_apply]
  refine ⟨W', rfl, hW'.contents.trans hcontents, ?_⟩
  rw [hW'.mirrors, ← hW₁]
  rfl

end Mirrored

end ObjectChannel
