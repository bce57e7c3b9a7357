/-
A writer does the same over two plain stores. What carries this is that a writer speaks only of an
upload that the store knows, and lists the parts that it has sent to it, in the order of their numbers.
-/
import ObjectChannel.Channel.Operation
import ObjectChannel.Proofs.Plain.Alike

namespace ObjectChannel.Writer

open ChannelAction
open Store (Contents)

/-- The parts of a writer are numbered in ascending order, and its upload is there with all of them. -/
structure Sound (c : Contents) (w : Writer) : Prop where
  ascending : (w.parts.map (·.number)).Pairwise (· < ·)
  bounded : ∀ p ∈ w.parts, p.number ≤ w.parts.length
  known : ∀ id, w.uploadId = some id →
    ∃ u, c.uploads.get? id = some u ∧ ∀ p ∈ w.parts, (u.part? p.number).isSome = true

variable {c c' : Contents} {w : Writer}

/-- A writer without parts and without an upload is sound. -/
theorem Sound.of_idle (hparts : w.parts = []) (hid : w.uploadId = none) : w.Sound c where
  ascending := by simp [hparts]
  bounded := by simp [hparts]
  known id h := by rw [hid] at h; cases h

/-- It stays sound while others work with the store. -/
theorem Sound.of_keepsUploads (h : w.Sound c) (hc : c.KeepsUploads c') : w.Sound c' where
  ascending := h.ascending
  bounded := h.bounded
  known id hid := by
    obtain ⟨u, hu, hparts⟩ := h.known id hid
    obtain ⟨u', hu', hparts'⟩ := hc id u hu
    exact ⟨u', hu', fun p hp => hparts' _ (hparts p hp)⟩

/-- With the next part sent it is sound again. -/
theorem Sound.addPart (h : w.Sound c) {id : String} (hid : w.uploadId = some id) (block : Bytes)
    (tag : String) :
    ({ w with parts := w.parts ++ [{ number := w.parts.length + 1, tag }] } : Writer).Sound
      (c.addPart id (w.parts.length + 1) block) where
  ascending := by
    rw [List.map_append, List.pairwise_append]
    refine ⟨h.ascending, List.pairwise_singleton .., ?_⟩
    intro n hn m hm
    obtain ⟨p, hp, rfl⟩ := List.mem_map.mp hn
    obtain rfl := List.mem_singleton.mp hm
    have := h.bounded p hp
    show p.number < w.parts.length + 1
    omega
  bounded p hp := by
    simp only [List.length_append, List.length_singleton]
    rcases List.mem_append.mp hp with hp | hp
    · have := h.bounded p hp
      omega
    · obtain rfl := List.mem_singleton.mp hp
      show (w.parts.length : Int) + 1 ≤ _
      omega
  known k hk := by
    obtain rfl : id = k := Option.some.inj (hid.symm.trans hk)
    obtain ⟨u, hu, hparts⟩ := h.known id hid
    refine ⟨u.setPart (w.parts.length + 1) block, ?_, fun p hp => ?_⟩
    · simp only [Contents.addPart, Contents.changeUpload, hu, Table.get?_insert_self]
    · rw [Store.Upload.part?_setPart]
      split
      · rfl
      · next hne =>
        rcases List.mem_append.mp hp with hp | hp
        · exact hparts p hp
        · obtain rfl := List.mem_singleton.mp hp
          exact absurd rfl hne

/-! ## Two worlds -/

variable {σ τ σ' τ' : Type} {b : Backend σ τ} {b' : Backend σ' τ'}

/-- The same sound writer in two worlds that are alike. -/
inductive Alike (P : b.Plain) (P' : b'.Plain) (c₀ : Contents) :
    Writer × World σ → Writer × World σ' → Prop where
  | mk {w W W'} (world : World.Alike P P' c₀ W W') (sound : w.Sound (P.contents W.store)) :
    Alike P P' c₀ (w, W) (w, W')

variable {P : b.Plain} {P' : b'.Plain} {c₀ : Contents} {W : World σ} {W' : World σ'}
  (hW : World.Alike P P' c₀ W W') (hw : w.Sound (P.contents W.store))

include hW hw

theorem abortUpload_same :
    Same Eq (Alike P P' c₀) (abortUpload b (w, W)) (abortUpload b' (w, W')) := by
  cases hid : w.uploadId with
  | none =>
    simp only [abortUpload, Action.bind_apply, this_apply, hid]
    exact .ok rfl ⟨hW, hw⟩
  | some id =>
    obtain ⟨u, hu, -⟩ := hw.known id hid
    have hfits : (Request.abortUpload w.object id).Fits (P.contents W.store) := by
      simp [Request.Fits, hu]
    obtain ⟨_, _, hcall, hcall', -, -, -, halike⟩ := ((hW.logged (.abortingUpload id w.object)).counted
      fun m => { m with aborts := m.aborts + 1 }).call hfits
    simp only [World.counted_store, World.logged_store] at hcall hcall'
    simp only [abortUpload, Action.bind_apply, this_apply, hid, world_apply, World.log_apply,
      World.count_apply, Action.ensuring_apply, Action.recover_apply, World.request_apply,
      World.logged_store, World.counted_store, hcall, hcall', change_apply]
    exact .ok rfl ⟨halike, .of_idle rfl rfl⟩

omit hw in
theorem beginUpload_same :
    Same Eq (Alike P P' c₀) (beginUpload b (w, W)) (beginUpload b' (w, W')) := by
  obtain ⟨u, u', hcall, hcall', hid, hid', hstore, halike⟩ :=
    (hW.logged (.beginningUpload w.object)).call (r := .beginUpload w.object w.info) trivial
  have hid : u.uploadId = (P.contents W.store).nextUploadId := hid
  have hid' : u'.uploadId = (P.contents W.store).nextUploadId := hid'
  simp only [World.logged_store] at hcall hcall'
  simp only [beginUpload, Action.bind_apply, this_apply, world_apply, World.log_apply,
    Action.recover_apply, World.request_apply, World.logged_store, hcall, hcall', change_apply, hid,
    hid']
  refine .ok rfl ⟨halike, by simp, by simp, fun id hnew => ?_⟩
  obtain rfl := Option.some.inj hnew
  rw [hstore]
  exact ⟨_, Table.get?_insert_self .., by simp⟩

/-- The upload stays that of the writer. -/
theorem sendPart_same {id : String} (hid : w.uploadId = some id) (block : Bytes) (isLast : Bool) :
    Same Eq (fun t t' => Alike P P' c₀ t t' ∧ t.1.uploadId = some id)
      (sendPart b id block isLast (w, W)) (sendPart b' id block isLast (w, W')) := by
  obtain ⟨u, hu, -⟩ := hw.known id hid
  have hfits : (Request.uploadPart w.object id (w.parts.length + 1) block block.size isLast).Fits
      (P.contents W.store) := by
    simp [Request.Fits, hu]
  obtain ⟨p, p', hcall, hcall', hp, hp', hstore, halike⟩ :=
    (hW.logged (.uploadingPart (w.parts.length + 1) block.size w.object)).call hfits
  obtain rfl : p = _ := hp
  obtain rfl : p' = _ := hp'
  simp only [World.logged_store] at hcall hcall'
  simp only [sendPart, Action.bind_apply, this_apply, world_apply, World.log_apply,
    Action.recover_apply, World.request_apply, World.logged_store, Int.natCast_add, Int.cast_ofNat_Int,
    hcall, hcall', change_apply, World.count_apply]
  refine .ok rfl ⟨⟨(halike.counted _).logged _, ?_⟩, hid⟩
  simp only [World.logged_store, World.counted_store, hstore]
  exact hw.addPart hid block _

omit hW hw in
/-- With an upload in progress the part is sent to that. -/
theorem uploadPart_apply {id : String} (hid : w.uploadId = some id) (block : Bytes) (isLast : Bool) :
    uploadPart b block isLast (w, W) = sendPart b id block isLast (w, W) := by
  simp only [uploadPart, Action.bind_apply, this_apply, hid, Option.isNone_some, Bool.false_eq_true,
    ite_false]

theorem uploadPart_same (block : Bytes) (isLast : Bool) :
    Same Eq (Alike P P' c₀) (uploadPart b block isLast (w, W)) (uploadPart b' block isLast (w, W')) := by
  cases hid : w.uploadId with
  | some id =>
    rw [uploadPart_apply hid, uploadPart_apply hid]
    exact (sendPart_same hW hw hid block isLast).imp (fun h => h) fun h => h.1
  | none =>
    unfold uploadPart
    rw [Action.bind_apply, Action.bind_apply, this_apply, this_apply]
    simp only [hid, Option.isNone_none, ite_true]
    refine (beginUpload_same hW).bind (fun _ h => ?_) fun h => h
    obtain @⟨w, W, W', hW, hw⟩ := h
    rw [Action.bind_apply, Action.bind_apply, this_apply, this_apply]
    dsimp only
    cases hid : w.uploadId with
    | none => exact .ok rfl ⟨hW, hw⟩
    | some id => exact (sendPart_same hW hw hid block isLast).imp (fun h => h) fun h => h.1

theorem completeUpload_same {id : String} (hid : w.uploadId = some id) :
    Same Eq (Alike P P' c₀) (completeUpload b id (w, W)) (completeUpload b' id (w, W')) := by
  obtain ⟨u, hu, hparts⟩ := hw.known id hid
  have hfits : (Request.completeUpload w.object id w.parts).Fits (P.contents W.store) :=
    ⟨hw.ascending, u, hu, hparts⟩
  obtain ⟨_, _, hcall, hcall', -, -, hstore, halike⟩ :=
    (hW.logged (.completingUpload w.object w.parts.length)).call hfits
  simp only [World.logged_store] at hcall hcall'
  simp only [completeUpload, Action.bind_apply, this_apply, world_apply, World.log_apply,
    Action.recover_apply, World.request_apply, World.logged_store, hcall, hcall', change_apply]
  exact .ok rfl ⟨halike.logged _, .of_idle rfl rfl⟩

theorem putObject_same :
    Same Eq (Alike P P' c₀) (putObject b (w, W)) (putObject b' (w, W')) := by
  obtain ⟨_, _, hcall, hcall', -, -, hstore, halike⟩ :=
    hW.call (r := .put w.object w.pending.toBytes w.pending.toBytes.size w.info) trivial
  simp only [putObject, Action.bind_apply, this_apply, world_apply, Action.mapFailure_apply,
    World.request_apply, hcall, hcall', World.count_apply]
  refine .ok rfl ⟨halike.counted _, ?_⟩
  rw [World.counted_store, hstore]
  exact hw.of_keepsUploads (Request.effect_keepsUploads _ hW.namesFree)

theorem write_same (limits : Limits) (data : Option Bytes) :
    Same Eq (Alike P P' c₀) (write b limits data (w, W)) (write b' limits data (w, W')) := by
  unfold write
  rw [Action.bind_apply, Action.bind_apply, this_apply, this_apply]
  by_cases hclosed : w.closed = true
  · simp only [hclosed, ite_true]
    exact .error rfl ⟨hW, hw⟩
  simp only [hclosed, Bool.false_eq_true, ite_false]
  cases data with
  | none => exact .error rfl ⟨hW, hw⟩
  | some data =>
    by_cases hempty : data.isEmpty = true
    · simp only [hempty, ite_true]
      exact .ok rfl ⟨hW, hw⟩
    simp only [hempty, Bool.false_eq_true, ite_false]
    by_cases hlimit : (w.uploadId.isSome && limits.maxParts ≤ w.parts.length) = true
    · have hw₁ : ({ w with closed := true, pending := .empty } : Writer).Sound (P.contents W.store) :=
        ⟨hw.ascending, hw.bounded, hw.known⟩
      simp only [hlimit, ite_true]
      exact (abortUpload_same hW hw₁).bind (fun _ h => .error rfl h) fun h => h
    simp only [hlimit, Bool.false_eq_true, ite_false]
    by_cases hfull : limits.minPartSize ≤ w.pending.size + data.size
    · have hw₁ : ({ w with pending := .empty } : Writer).Sound (P.contents W.store) :=
        ⟨hw.ascending, hw.bounded, hw.known⟩
      simp only [hfull, ite_true]
      exact (uploadPart_same hW hw₁ _ false).bind (fun _ h => .ok rfl h) fun h => h
    · simp only [hfull, ite_false]
      exact .ok rfl ⟨hW, hw.ascending, hw.bounded, hw.known⟩

theorem discard_same : Same Eq (Alike P P' c₀) (discard b (w, W)) (discard b' (w, W')) := by
  unfold discard
  rw [Action.bind_apply, Action.bind_apply, this_apply, this_apply]
  by_cases hclosed : w.closed = true
  · simp only [hclosed, ite_true]
    exact .ok rfl ⟨hW, hw⟩
  · have hw₁ : ({ w with closed := true, pending := .empty } : Writer).Sound (P.contents W.store) :=
      ⟨hw.ascending, hw.bounded, hw.known⟩
    simp only [hclosed, Bool.false_eq_true, ite_false]
    exact abortUpload_same hW hw₁

theorem close_same (limits : Limits) :
    Same Eq (Alike P P' c₀) (close b limits (w, W)) (close b' limits (w, W')) := by
  unfold close
  rw [Action.bind_apply, Action.bind_apply, this_apply, this_apply]
  by_cases hclosed : w.closed = true
  · simp only [hclosed, ite_true]
    exact .ok rfl ⟨hW, hw⟩
  simp only [hclosed, Bool.false_eq_true, ite_false]
  refine Same.ensuring (R := Alike P P' c₀) ?_ ?_
  · cases hid : w.uploadId with
    | none => exact putObject_same hW hw
    | some id =>
      by_cases hlast : w.parts.length < limits.maxParts
      · have hsend := sendPart_same hW hw hid w.pending.toBytes true
        rw [← uploadPart_apply hid, ← uploadPart_apply hid] at hsend
        simp only [hlast, ite_true]
        refine hsend.bind (fun _ h => ?_) fun h => h.1
        obtain ⟨@⟨w, W, W', hW, hw⟩, hid⟩ := h
        exact completeUpload_same hW hw hid
      · simp only [hlast, ite_false]
        exact completeUpload_same hW hw hid
  · rintro _ _ ⟨hW, hw⟩
    exact ⟨rfl, rfl, hW, hw.ascending, hw.bounded, hw.known⟩

/-- **A writer does the same over two plain stores**, whatever the operation. -/
theorem perform_same (limits : Limits) (names : ContentType.NameTypes) (op : Operation) :
    Same Eq (Alike P P' c₀) (Channel.performWriter ⟨b, limits, names⟩ op (w, W))
      (Channel.performWriter ⟨b', limits, names⟩ op (w, W')) := by
  have hsame : Alike P P' c₀ (w, W) (w, W') := ⟨hW, hw⟩
  cases op with
  | write data => exact (write_same hW hw limits data).map fun h => by rw [h]
  | close => exact (close_same hW hw limits).map fun _ => rfl
  | discard => exact (discard_same hW hw).map fun _ => rfl
  | leave failed =>
    cases failed with
    | true => exact (discard_same hW hw).map fun _ => rfl
    | false => exact (close_same hW hw limits).map fun _ => rfl
  | setPosition p => exact .ok rfl ⟨hW, hw.ascending, hw.bounded, hw.known⟩
  | position =>
    simp only [Channel.performWriter, Action.bind_apply, this_apply]
    cases w.notedPosition with
    | none => exact .error rfl hsame
    | some p => exact .ok rfl hsame
  | enter | readable | writable | seekable | objectId | partCount | uploadId | setLastModified _
  | readInto _ => exact .ok rfl hsame
  | read | truncate | seek | tell | size | options | removeMirror => exact .error rfl hsame

end ObjectChannel.Writer
