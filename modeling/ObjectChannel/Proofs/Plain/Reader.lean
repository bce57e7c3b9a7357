/-
A reader does the same over two plain stores, as long as the first can be asked for the ranges that the
reader wants; the second can be asked for every range. Where the first cannot, the read fails with just
that for its cause.
-/
import ObjectChannel.Channel.Operation
import ObjectChannel.Proofs.Plain.Alike
import ObjectChannel.Proofs.Reader.Fetch

namespace ObjectChannel

/-- The failure of a read whose range could not be put in writing. -/
def Failure.isUnwritten : Failure → Bool
  | .channel (.transfer .readRange _) (some .tooManyDigits) => true
  | _ => false

/-- The outcome is such a failure. -/
def Unwritten {α : Type} (x : Except Failure α) : Prop := ∃ e, x = .error e ∧ e.isUnwritten = true

theorem not_unwritten_ok {α : Type} (a : α) : ¬Unwritten (.ok a : Except Failure α) := by
  rintro ⟨_, heq, -⟩
  cases heq

theorem not_unwritten_error {α : Type} {e : Failure} (h : e.isUnwritten = false) :
    ¬Unwritten (.error e : Except Failure α) := by
  rintro ⟨_, heq, he⟩
  cases heq
  rw [h] at he
  cases he

theorem Failure.isUnwritten_transferFailed {o : ObjectId} {e : Failure} (h : e ≠ .tooManyDigits) :
    (Failure.transferFailed .readRange o e).isUnwritten = false := by
  cases e <;> first | rfl | exact absurd rfl h

/-- An operation ended with such a failure; a destination tells of its own. -/
def isUnwritten : Except Failure Answer → Bool
  | .error e => e.isUnwritten
  | .ok (.filled _ (.error e)) => e.isUnwritten
  | _ => false

namespace Reader

open ChannelAction
open Store (Contents)

def Fetched.bare (f : Fetched) : Fetched := { f with outcome := f.outcome.mapError Failure.bare }

/-- Fetches that are the same but for what led to failures brought the same, and both went well or
failed in the same way. -/
theorem Fetched.of_bare_eq {f f' : Fetched} (h : f'.bare = f.bare) :
    f'.bytes = f.bytes ∧ (f.outcome = .ok () ∧ f'.outcome = .ok () ∨
      ∃ e e', f.outcome = .error e ∧ f'.outcome = .error e' ∧ e.bare = e'.bare) := by
  have houtcome : f'.outcome.mapError Failure.bare = f.outcome.mapError Failure.bare :=
    congrArg Fetched.outcome h
  have hbytes : f'.bare.bytes = f.bare.bytes := congrArg Fetched.bytes h
  refine ⟨hbytes, ?_⟩
  cases hf : f.outcome with
  | ok _ =>
    cases hf' : f'.outcome with
    | ok _ => exact .inl ⟨rfl, rfl⟩
    | error e' =>
      rw [hf, hf'] at houtcome
      cases houtcome
  | error e =>
    cases hf' : f'.outcome with
    | ok _ =>
      rw [hf, hf'] at houtcome
      cases houtcome
    | error e' =>
      rw [hf, hf'] at houtcome
      exact .inr ⟨e, e', rfl, rfl, (Except.error.inj houtcome).symm⟩

/-- What a fetch comes to over bare contents, if its range can be asked for. -/
def fetched (c : Contents) (r : Reader) (capacity : Nat) : Fetched :=
  if r.closed then ⟨.empty, .error (.ofChannel (.closed r.object))⟩
  else if capacity = 0 then ⟨.empty, .ok ()⟩
  else
    match c.object? r.object with
    | none => ⟨.empty, .error (.ofChannel (.transfer .readRange r.object))⟩
    | some x => ⟨x.data.slice r.position (r.position + capacity), .ok ()⟩

/-- The reader, with the cursor behind what a fetch brought. -/
def behind (r : Reader) (f : Fetched) : Reader := { r with position := r.position + f.bytes.size }

/-- How many bytes there are from the cursor on. -/
def remaining (c : Contents) (r : Reader) : Nat :=
  match c.object? r.object with
  | none => 0
  | some x => x.data.size - r.position

/-- A fetch that brings something leaves less to be fetched. -/
theorem remaining_behind (c : Contents) (r : Reader) (capacity : Nat)
    (h : (fetched c r capacity).bytes.size ≠ 0) :
    remaining c (r.behind (fetched c r capacity)) < remaining c r := by
  unfold fetched at h ⊢
  by_cases hclosed : r.closed = true
  · simp [hclosed] at h
  by_cases hcapacity : capacity = 0
  · simp [hclosed, hcapacity] at h
  simp only [hclosed, hcapacity, ite_false, Bool.false_eq_true] at h ⊢
  cases hx : c.object? r.object with
  | none => simp [hx] at h
  | some x =>
    simp only [hx] at h ⊢
    rw [Bytes.size_slice] at h
    simp only [remaining, behind, hx, Bytes.size_slice]
    omega

/-! ## One store -/

section

variable {σ τ : Type} {b : Backend σ τ} {P : b.Plain} {r : Reader} {capacity : Nat}

/-- The world once a reader has asked for a range. -/
def asked (b : Backend σ τ) (r : Reader) (capacity : Nat) (W : World σ) : World σ :=
  (W.logged (.readingRange r.position (r.position + capacity) r.object)).answered b
    (.get r.object (some (r.position, r.position + capacity)))

theorem untouched_asked {W : World σ} {x : Except Failure τ} {s : σ}
    (h : b.call (.get r.object (some (r.position, r.position + capacity))) W.store = (x, s))
    (hs : P.contents s = P.contents W.store) : P.Untouched W (asked b r capacity W) :=
  (Backend.Plain.Untouched.logged W _).trans (.answered h hs)

/-- Where no stream is opened, nothing is fetched. -/
theorem fetch_of_error {W : World σ} {e : Failure} {s : σ} (he : e.isInterrupt = false)
    (h : b.call (.get r.object (some (r.position, r.position + capacity))) W.store = (.error e, s)) :
    fetch b capacity (r, W) =
      (.ok ⟨.empty, .error (.transferFailed .readRange r.object e)⟩, (r, asked b r capacity W)) := by
  simp only [fetch, Action.bind_apply, World.log_apply, World.request_apply, World.logged_store, h,
    report, he, Bool.false_eq_true, ite_false]
  rfl

theorem fetch_of_reaches (W : World σ) (hc : 0 < capacity)
    (hreach : P.Reaches (r.position + capacity)) (hopen : r.closed = false) :
    ∃ f W₁, fetch b capacity (r, W) = (.ok f, (r.behind f, W₁)) ∧
      f.bare = fetched (P.contents W.store) r capacity ∧ ¬Unwritten f.outcome ∧ P.Untouched W W₁ := by
  have hij : r.position < r.position + capacity := by omega
  have hcapacity : ¬capacity = 0 := by omega
  cases hx : (P.contents W.store).object? r.object with
  | none =>
    obtain ⟨e, s, hcall, hordinary, hwritten, hs⟩ := P.get_missing _ _ _ _ hx hij hreach
    refine ⟨_, _, fetch_of_error hordinary hcall, ?_, ?_, untouched_asked hcall hs⟩
    · simp only [fetched, hopen, hcapacity, hx, Bool.false_eq_true, ite_false]
      rfl
    · exact not_unwritten_error (Failure.isUnwritten_transferFailed hwritten)
  | some x =>
    have hrange : ∀ i j, some (r.position, r.position + capacity) = some (i, j) →
        i < j ∧ P.Reaches j := by
      intro i j heq
      cases heq
      exact ⟨hij, hreach⟩
    obtain ⟨t, s, hcall, hwhole, hleft, hs⟩ := P.get_object _ _ _ _ hx hrange
    obtain ⟨t', hdrain, hwhole'⟩ := drain_of_isWhole P.streams hwhole capacity .empty
    have hbytes : (P.left t).take capacity = x.data.slice r.position (r.position + capacity) := by
      rw [hleft]
      exact Bytes.take_of_size_le (by simp only [Store.MemoryStore.clip, Bytes.size_slice]; omega)
    rw [hbytes, ByteArray.empty_append] at hdrain
    obtain ⟨s', hclose, hs'⟩ := P.close_whole _ s hwhole'
    refine ⟨⟨x.data.slice r.position (r.position + capacity), .ok ()⟩,
      { asked b r capacity W with store := s' }, ?_, ?_, not_unwritten_ok (),
      (untouched_asked hcall hs).trans (.onStore ?_)⟩
    · simp only [fetch, Action.bind_apply, World.log_apply, World.request_apply, World.logged_store,
        hcall, hdrain, World.onStore_apply, World.answered_store, hclose, ending, report]
      rfl
    · simp only [fetched, hopen, hcapacity, hx, Bool.false_eq_true, ite_false]
      rfl
    · rw [asked, World.answered_store, World.logged_store, hcall]
      exact hs'

theorem fetchUpTo_of_reaches (W : World σ)
    (hreach : r.closed = false → 0 < capacity → P.Reaches (r.position + capacity)) :
    ∃ f W₁, fetchUpTo b capacity (r, W) = (.ok f, (r.behind f, W₁)) ∧
      f.bare = fetched (P.contents W.store) r capacity ∧ ¬Unwritten f.outcome ∧ P.Untouched W W₁ := by
  cases hopen : r.closed with
  | true =>
    exact ⟨_, W, fetchUpTo_of_closed (s := (r, W)) hopen capacity, by simp [fetched, hopen]; rfl,
      not_unwritten_error rfl, .refl W⟩
  | false =>
    by_cases hcapacity : capacity = 0
    · refine ⟨⟨.empty, .ok ()⟩, W, ?_, by simp [fetched, hopen, hcapacity]; rfl, not_unwritten_ok (),
        .refl W⟩
      simp only [fetchUpTo, Action.bind_apply, this_apply, hopen, hcapacity, Bool.false_eq_true,
        ite_false, ite_true]
      rfl
    · have hc : 0 < capacity := Nat.pos_of_ne_zero hcapacity
      obtain ⟨f, W₁, hfetch, hf, hwritten, hW⟩ := fetch_of_reaches W hc (hreach hopen hc) hopen
      simp only [fetchUpTo, Action.bind_apply, this_apply, hopen, hcapacity, Bool.false_eq_true,
        ite_false, hfetch]
      cases hr : f.outcome with
      | error e => exact ⟨f, W₁, rfl, hf, hwritten, hW⟩
      | ok _ => exact ⟨f, _, rfl, hf, hwritten, hW.trans (.counted W₁ _)⟩

theorem fetchUpTo_of_beyond (W : World σ) (hopen : r.closed = false) (hc : 0 < capacity)
    (hreach : ¬P.Reaches (r.position + capacity)) :
    ∃ f s, fetchUpTo b capacity (r, W) = (.ok f, s) ∧
      f.outcome = .error (.transferFailed .readRange r.object .tooManyDigits) := by
  have hij : r.position < r.position + capacity := by omega
  have hcapacity : ¬capacity = 0 := by omega
  obtain ⟨s, hcall, -⟩ := P.get_beyond r.object W.store _ _ hij hreach
  simp only [fetchUpTo, Action.bind_apply, this_apply, hopen, hcapacity, Bool.false_eq_true, ite_false,
    fetch_of_error (rfl : Failure.tooManyDigits.isInterrupt = false) hcall]
  exact ⟨_, _, rfl, rfl⟩

/-- **A fetch fails over the writing of its range exactly where that range cannot be asked for.** -/
theorem fetchUpTo_unwritten_iff (P : b.Plain) (W : World σ) :
    (∃ f s, fetchUpTo b capacity (r, W) = (.ok f, s) ∧ Unwritten f.outcome) ↔
      r.closed = false ∧ 0 < capacity ∧ ¬P.Reaches (r.position + capacity) := by
  constructor
  · rintro ⟨f, s, hfetch, hf⟩
    by_cases hreach : r.closed = false → 0 < capacity → P.Reaches (r.position + capacity)
    · obtain ⟨f', W₁, hfetch', -, hwritten, -⟩ := fetchUpTo_of_reaches W hreach
      cases hfetch.symm.trans hfetch'
      exact absurd hf hwritten
    · simpa only [Classical.not_imp] using hreach
  · rintro ⟨hopen, hc, hbeyond⟩
    obtain ⟨f, s, hfetch, hf⟩ := fetchUpTo_of_beyond W hopen hc hbeyond
    exact ⟨f, s, hfetch, _, hf, rfl⟩

end

/-! ## Two stores -/

variable {σ τ σ' τ' : Type} {b : Backend σ τ} {b' : Backend σ' τ'}

/-- The same reader in two worlds that are alike. -/
inductive Alike (P : b.Plain) (P' : b'.Plain) (c₀ : Contents) :
    Reader × World σ → Reader × World σ' → Prop where
  | mk {r W W'} (world : World.Alike P P' c₀ W W') : Alike P P' c₀ (r, W) (r, W')

variable {P : b.Plain} {P' : b'.Plain} {c₀ : Contents} {W : World σ} {W' : World σ'}
  (hall : ∀ j, P'.Reaches j) (hW : World.Alike P P' c₀ W W')

include hall hW

/-- Either the first store cannot be asked, or both bring what there is. -/
theorem fetchUpTo_both (r : Reader) (capacity : Nat) :
    (∃ f s, fetchUpTo b capacity (r, W) = (.ok f, s) ∧ Unwritten f.outcome) ∨
      ∃ f f' W₁ W₁', fetchUpTo b capacity (r, W) = (.ok f, (r.behind f, W₁)) ∧
        fetchUpTo b' capacity (r, W') = (.ok f', (r.behind f', W₁')) ∧
        f.bare = fetched (P.contents W.store) r capacity ∧ f'.bare = f.bare ∧
        P.Untouched W W₁ ∧ P'.Untouched W' W₁' := by
  by_cases hreach : r.closed = false → 0 < capacity → P.Reaches (r.position + capacity)
  · obtain ⟨f, W₁, hfetch, hf, -, hW₁⟩ := fetchUpTo_of_reaches W hreach
    obtain ⟨f', W₁', hfetch', hf', -, hW₁'⟩ := fetchUpTo_of_reaches (P := P') W' fun _ _ => hall _
    rw [hW.contents] at hf'
    exact .inr ⟨f, f', W₁, W₁', hfetch, hfetch', hf, hf'.trans hf.symm, hW₁, hW₁'⟩
  · exact .inl ((fetchUpTo_unwritten_iff P W).mpr (by simpa only [Classical.not_imp] using hreach))

theorem readChunk_same (r : Reader) (capacity : Nat) :
    Unwritten (readChunk b capacity (r, W)).1 ∨
      Same Eq (Alike P P' c₀) (readChunk b capacity (r, W)) (readChunk b' capacity (r, W')) := by
  obtain ⟨f, s, hfetch, e, he, hbeyond⟩ | ⟨f, f', W₁, W₁', hfetch, hfetch', -, hf', hW₁, hW₁'⟩ :=
    fetchUpTo_both hall hW r capacity
  · rw [readChunk_apply hfetch, he]
    exact .inl ⟨e, rfl, hbeyond⟩
  · obtain ⟨hbytes, ⟨ho, ho'⟩ | ⟨e, e', ho, ho', he⟩⟩ := Fetched.of_bare_eq hf'
    all_goals
      rw [readChunk_apply hfetch, readChunk_apply hfetch', behind, behind, hbytes, ho, ho']
    · exact .inr (.ok rfl ⟨hW.untouched hW₁ hW₁'⟩)
    · exact .inr (.error he ⟨hW.untouched hW₁ hW₁'⟩)

/-- Destinations keep what arrived, also where a read fails. -/
theorem readInto_same (r : Reader) (buffer : Bytes) :
    (∃ filled s, readInto b buffer (r, W) = (.ok filled, s) ∧ Unwritten filled.outcome) ∨
      Same (fun x x' => x'.buffer = x.buffer ∧
          x'.outcome.mapError Failure.bare = x.outcome.mapError Failure.bare)
        (Alike P P' c₀) (readInto b buffer (r, W)) (readInto b' buffer (r, W')) := by
  obtain ⟨f, s, hfetch, e, he, hbeyond⟩ | ⟨f, f', W₁, W₁', hfetch, hfetch', -, hf', hW₁, hW₁'⟩ :=
    fetchUpTo_both hall hW r buffer.size
  · rw [readInto_apply hfetch, he]
    exact .inl ⟨_, s, rfl, e, rfl, hbeyond⟩
  · obtain ⟨hbytes, ⟨ho, ho'⟩ | ⟨e, e', ho, ho', he⟩⟩ := Fetched.of_bare_eq hf'
    all_goals
      rw [readInto_apply hfetch, readInto_apply hfetch', behind, behind, hbytes, ho, ho']
    · exact .inr (.ok ⟨rfl, rfl⟩ ⟨hW.untouched hW₁ hW₁'⟩)
    · exact .inr (.ok ⟨rfl, congrArg Except.error he.symm⟩ ⟨hW.untouched hW₁ hW₁'⟩)

/-- Reading on comes to an end over both stores. -/
theorem readOn_same (r : Reader) (capacity : Nat) (got : Bytes) :
    ∃ x, b.readOn capacity got (r, W) = some x ∧ (Unwritten x.1 ∨
      ∃ x', b'.readOn capacity got (r, W') = some x' ∧ Same Eq (Alike P P' c₀) x x') := by
  -- there is less left behind every chunk that is not empty
  induction hn : remaining (P.contents W.store) r using Nat.strongRecOn generalizing r W W' got with
  | _ n ih =>
    obtain ⟨f, s, hfetch, e, he, hbeyond⟩ | ⟨f, f', W₁, W₁', hfetch, hfetch', hf, hf', hW₁, hW₁'⟩ :=
      fetchUpTo_both hall hW r capacity
    · rw [Backend.readOn, readChunk_apply hfetch, he]
      exact ⟨_, rfl, .inl ⟨e, rfl, hbeyond⟩⟩
    obtain ⟨hbytes, ho⟩ := Fetched.of_bare_eq hf'
    have hreader : r.behind f' = r.behind f := by rw [behind, behind, hbytes]
    have hW₂ := hW.untouched hW₁ hW₁'
    rw [hreader] at hfetch'
    rw [Backend.readOn, Backend.readOn, readChunk_apply hfetch, readChunk_apply hfetch', hbytes]
    obtain ⟨ho, ho'⟩ | ⟨e, e', ho, ho', he⟩ := ho <;> rw [ho, ho']
    · by_cases hempty : f.bytes.size = 0
      · have hisEmpty : f.bytes.isEmpty = true := Bytes.isEmpty_iff.mpr hempty
        simp only [Except.map, hisEmpty, ite_true]
        exact ⟨_, rfl, .inr ⟨_, rfl, .ok rfl ⟨hW₂⟩⟩⟩
      · have hisEmpty : f.bytes.isEmpty = false := Bytes.isEmpty_eq_false hempty
        have hfetched : f.bytes = (fetched (P.contents W.store) r capacity).bytes := by
          rw [← hf]
          rfl
        have hless : remaining (P.contents W₁.store) (r.behind f) < n := by
          have hbehind : r.behind f = r.behind (fetched (P.contents W.store) r capacity) := by
            rw [behind, behind, hfetched]
          rw [hW₁.contents, hbehind, ← hn]
          exact remaining_behind _ _ _ (by rwa [← hfetched])
        simp only [Except.map, hisEmpty, Bool.false_eq_true, ite_false]
        exact ih _ hless hW₂ _ _ rfl
    · exact ⟨_, rfl, .inr ⟨_, rfl, .error he ⟨hW₂⟩⟩⟩

theorem readRest_same (r : Reader) (limits : Limits) :
    Unwritten (readRest b limits (r, W)).1 ∨
      Same Eq (Alike P P' c₀) (readRest b limits (r, W)) (readRest b' limits (r, W')) := by
  rw [readRest_apply, readRest_apply]
  cases limits.platform.capacity Capacity.maxSize limits.readSize with
  | error e => exact .inr (.error rfl ⟨hW⟩)
  | ok capacity =>
    obtain ⟨x, hx, hbeyond | ⟨x', hx', hsame⟩⟩ := readOn_same hall hW r capacity .empty
    · simp only [hx, Option.getD_some]
      exact .inl hbeyond
    · simp only [hx, hx', Option.getD_some]
      exact .inr hsame

theorem read_same (r : Reader) (limits : Limits) (size : Option Int) :
    Unwritten (read b limits size (r, W)).1 ∨
      Same Eq (Alike P P' c₀) (read b limits size (r, W)) (read b' limits size (r, W')) := by
  cases size with
  | none => exact readRest_same hall hW r limits
  | some n =>
    unfold read
    by_cases hn : n < 0
    · simp only [hn, ite_true]
      exact readRest_same hall hW r limits
    · simp only [hn, ite_false, Action.bind_apply, Action.ofExcept_apply]
      cases limits.platform.capacity Capacity.maxSize n with
      | error e => exact .inr (.error rfl ⟨hW⟩)
      | ok capacity => exact readChunk_same hall hW r capacity

omit hall in
theorem seek_same (r : Reader) (offset whence : Int) :
    Same Eq (Alike P P' c₀) (seek offset whence (r, W)) (seek offset whence (r, W')) := by
  simp only [seek, Action.bind_apply, requireOpen_apply, this_apply]
  cases r.closed with
  | true => exact .error rfl ⟨hW⟩
  | false =>
    simp only [Bool.false_eq_true, ite_false]
    by_cases hwhence : whence = 0 ∨ whence = 1
    · simp only [hwhence, ite_true]
      by_cases htarget : (if whence = 0 then offset else (r.position : Int) + offset) < 0
      · simp only [htarget, ite_true]
        exact .error rfl ⟨hW⟩
      · simp only [htarget, ite_false]
        exact .ok rfl ⟨hW⟩
    · simp only [hwhence, ite_false]
      exact .error rfl ⟨hW⟩

omit hall in
theorem tell_same (r : Reader) : Same Eq (Alike P P' c₀) (tell (r, W)) (tell (r, W')) := by
  simp only [tell, Action.bind_apply, requireOpen_apply, this_apply]
  cases r.closed with
  | true => exact .error rfl ⟨hW⟩
  | false => exact .ok rfl ⟨hW⟩

/-- **A reader does the same over two plain stores**, whatever the operation, unless the first cannot be
asked for what the reader wants. -/
theorem perform_same (limits : Limits) (names : ContentType.NameTypes) (op : Operation) (r : Reader) :
    isUnwritten (Channel.performReader ⟨b, limits, names⟩ op (r, W)).1 = true ∨
      Same (fun a a' => a'.bare = a.bare) (Alike P P' c₀)
        (Channel.performReader ⟨b, limits, names⟩ op (r, W))
        (Channel.performReader ⟨b', limits, names⟩ op (r, W')) := by
  cases op with
  | read size =>
    obtain ⟨e, he, hbeyond⟩ | hsame := read_same hall hW r limits size
    · left
      simp only [Channel.performReader, Action.bind_apply]
      rcases hread : read b limits size (r, W) with ⟨x, s⟩
      obtain rfl : x = .error e := by rw [hread] at he; exact he
      exact hbeyond
    · exact .inr (hsame.map fun h => by rw [h])
  | readInto buffer =>
    obtain ⟨filled, s, hread, e, he, hbeyond⟩ | hsame := readInto_same hall hW r buffer
    · left
      simp only [Channel.performReader, Action.bind_apply, hread, he]
      exact hbeyond
    · refine .inr (hsame.map fun h => ?_)
      simp only [Answer.bare, h.1, h.2]
  | seek offset whence => exact .inr ((seek_same hW r offset whence).map fun h => by rw [h])
  | setPosition p => exact .inr ((seek_same hW r p 0).map fun _ => rfl)
  | position | tell => exact .inr ((tell_same hW r).map fun h => by rw [h])
  | write | truncate | size | discard | options | partCount | uploadId | removeMirror =>
    exact .inr (.error rfl ⟨hW⟩)
  | close | leave | enter | readable | writable | seekable | objectId | setLastModified =>
    exact .inr (.ok rfl ⟨hW⟩)

end Reader
end ObjectChannel
