/-
What a writer publishes over a plain store: all that was written to it, in whatever pieces it came, as
long as the parts of one upload can hold it. Every part is as large as a part has to be, so that there
are fewer parts than there may be as long as something is still to come.
-/
import ObjectChannel.CommandLine.Run
import ObjectChannel.Proofs.Plain.Writer

namespace ObjectChannel

open Store (Contents)

/-- The parts of one upload can hold as much as this in any case. -/
def Limits.Holds (limits : Limits) (data : Bytes) : Prop :=
  (data.size : Int) ≤ limits.minPartSize * limits.maxParts

instance (limits : Limits) (data : Bytes) : Decidable (limits.Holds data) :=
  inferInstanceAs (Decidable (_ ≤ _))

theorem Limits.Holds.of_append {limits : Limits} {data more : Bytes} (h : limits.Holds (data ++ more)) :
    limits.Holds data := by
  unfold Holds at h ⊢
  rw [ByteArray.size_append] at h
  omega

/-- A part behind the others is assembled behind them. -/
theorem Store.Upload.assemble_setPart (u : Store.Upload) {numbers : List Int} {n : Int}
    (h : ∀ k ∈ numbers, k < n) (block : Bytes) :
    (u.setPart n block).assemble (numbers ++ [n]) = u.assemble numbers ++ block := by
  have hbefore : (u.setPart n block).assemble numbers = u.assemble numbers := by
    unfold assemble
    congr 1
    refine List.map_congr_left fun k hk => ?_
    rw [part?_setPart, if_neg (Int.ne_of_lt (h k hk))]
  rw [← hbefore]
  apply Bytes.ext_toList
  simp [assemble, part?_setPart, Bytes.toList_concat]

namespace Writer

open ChannelAction

/-- The bytes of the parts that a store has from a writer. -/
def sentIn (c : Contents) (w : Writer) : Bytes :=
  match w.uploadId with
  | none => .empty
  | some id => ((c.uploads.get? id).map fun u => u.assemble (w.parts.map (·.number))).getD .empty

theorem sentIn_addPart {c : Contents} {w : Writer} (h : w.Sound c) {id : String}
    (hid : w.uploadId = some id) (block : Bytes) (tag : String) :
    sentIn (c.addPart id (w.parts.length + 1) block)
        { w with parts := w.parts ++ [{ number := w.parts.length + 1, tag }] } =
      sentIn c w ++ block := by
  obtain ⟨u, hu, -⟩ := h.known id hid
  have hlast : ∀ k ∈ w.parts.map (·.number), k < (w.parts.length : Int) + 1 := by
    intro k hk
    obtain ⟨p, hp, rfl⟩ := List.mem_map.mp hk
    have := h.bounded p hp
    omega
  simp only [sentIn, hid, Contents.addPart, Contents.changeUpload, hu, Table.get?_insert_self,
    Option.map_some, Option.getD_some, List.map_append, List.map_cons, List.map_nil]
  exact u.assemble_setPart hlast block

variable {σ τ : Type} {b : Backend σ τ} {P : b.Plain} {limits : Limits}

/-- A request that fits is answered, and does what it should. -/
theorem answered_of_fits (P : b.Plain) (W : World σ) {r : Request} (hr : r.Fits (P.contents W.store)) :
    ∃ x, (b.call r W.store).1 = .ok x ∧ r.Says (P.contents W.store) x ∧
      P.contents (W.answered b r).store = r.effect (P.contents W.store) := by
  obtain ⟨x, s, hcall, hsays, heffect⟩ := P.call_fits r W.store hr
  exact ⟨x, by rw [hcall], hsays, by rw [World.answered_store, hcall]; exact heffect⟩

/-- What sending a block leaves: a sound writer, with one part more. -/
structure Sends (P : b.Plain) (block : Bytes) (s s' : Writer × World σ) : Prop where
  sound : s'.1.Sound (P.contents s'.2.store)
  sent : sentIn (P.contents s'.2.store) s'.1 = sentIn (P.contents s.2.store) s.1 ++ block
  count : s'.1.parts.length = s.1.parts.length + 1
  known : s'.1.uploadId ≠ none
  closed : s'.1.closed = s.1.closed
  object : s'.1.object = s.1.object
  pending : s'.1.pending = s.1.pending
  mirrors : s'.2.mirrors = s.2.mirrors

theorem sendPart_sends {w : Writer} {W : World σ} (hw : w.Sound (P.contents W.store)) {id : String}
    (hid : w.uploadId = some id) (block : Bytes) (isLast : Bool) :
    ∃ s', sendPart b id block isLast (w, W) = (.ok (), s') ∧ Sends P block (w, W) s' ∧
      s'.1.uploadId = some id := by
  obtain ⟨u, hu, -⟩ := hw.known id hid
  have hfits : (Request.uploadPart w.object id (w.parts.length + 1) block block.size isLast).Fits
      (P.contents W.store) := by
    simp [Request.Fits, hu]
  obtain ⟨p, hcall, hp, hstore⟩ :=
    answered_of_fits P (W.logged (.uploadingPart (w.parts.length + 1) block.size w.object)) hfits
  obtain rfl : p = _ := hp
  simp only [World.logged_store] at hcall hstore
  simp only [sendPart, Action.bind_apply, this_apply, world_apply, World.log_apply,
    Action.recover_apply, World.request_apply, World.logged_store, Int.natCast_add, Int.cast_ofNat_Int,
    hcall, change_apply, World.count_apply]
  refine ⟨_, rfl, ⟨?_, ?_, by simp, by simp [hid], rfl, rfl, rfl, by simp⟩, hid⟩
  · simp only [World.logged_store, World.counted_store, hstore]
    exact hw.addPart hid block _
  · simp only [World.logged_store, World.counted_store, hstore]
    exact sentIn_addPart hw hid block _

theorem uploadPart_sends {w : Writer} {W : World σ} (hw : w.Sound (P.contents W.store))
    (hidle : w.uploadId = none → w.parts = []) (block : Bytes) (isLast : Bool) :
    ∃ s', uploadPart b block isLast (w, W) = (.ok (), s') ∧ Sends P block (w, W) s' := by
  cases hid : w.uploadId with
  | some id =>
    rw [uploadPart_apply hid]
    obtain ⟨s', hsend, hs, -⟩ := sendPart_sends hw hid block isLast
    exact ⟨s', hsend, hs⟩
  | none =>
    obtain ⟨u, hcall, hu, hstore⟩ := answered_of_fits P (W.logged (.beginningUpload w.object))
      (r := .beginUpload w.object w.info) trivial
    have hu : u.uploadId = (P.contents W.store).nextUploadId := hu
    simp only [World.logged_store] at hcall hstore
    have hbegin : uploadPart b block isLast (w, W) = sendPart b u.uploadId block isLast
        ({ w with uploadId := some u.uploadId, parts := [] },
          (W.logged (.beginningUpload w.object)).answered b (.beginUpload w.object w.info)) := by
      simp only [uploadPart, beginUpload, Action.bind_apply, this_apply, hid, Option.isNone_none,
        ite_true, world_apply, World.log_apply, Action.recover_apply, World.request_apply,
        World.logged_store, hcall, change_apply]
    have hnew : (P.contents ((W.logged (.beginningUpload w.object)).answered b
        (.beginUpload w.object w.info)).store).uploads.get? u.uploadId =
          some { object := w.object.path } := by
      rw [hstore, hu]
      exact Table.get?_insert_self ..
    have hw' : ({ w with uploadId := some u.uploadId, parts := [] } : Writer).Sound
        (P.contents ((W.logged (.beginningUpload w.object)).answered b
          (.beginUpload w.object w.info)).store) := by
      refine ⟨by simp, by simp, fun id h => ?_⟩
      obtain rfl := Option.some.inj h
      exact ⟨_, hnew, by simp⟩
    obtain ⟨s', hsend, hs, -⟩ := sendPart_sends hw' rfl block isLast
    refine ⟨s', hbegin.trans hsend, hs.sound, ?_, ?_, hs.known, hs.closed, hs.object, hs.pending, ?_⟩
    · rw [hs.sent]
      simp only [sentIn, hnew, hid]
      rfl
    · rw [hs.count, hidle hid]
    · rw [hs.mirrors]
      simp

/-! ## Writing -/

/-- An open writer that has taken some bytes: they are those of its parts and those that are pending.
No part is smaller than it has to be. -/
structure Took (P : b.Plain) (limits : Limits) (o : ObjectId) (s : Writer × World σ) (data : Bytes) :
    Prop where
  object : s.1.object = o
  opened : s.1.closed = false
  sound : s.1.Sound (P.contents s.2.store)
  idle : s.1.uploadId = none → s.1.parts = []
  bytes : data = sentIn (P.contents s.2.store) s.1 ++ s.1.pending.toBytes
  enough : limits.minPartSize * s.1.parts.length ≤ (sentIn (P.contents s.2.store) s.1).size

variable {o : ObjectId} {s : Writer × World σ} {data : Bytes}

theorem Took.initial (P : b.Plain) (limits : Limits) (o : ObjectId) (info : ObjectInfo) (W : World σ) :
    Took P limits o ({ object := o, info }, W) .empty where
  object := rfl
  opened := rfl
  sound := .of_idle rfl rfl
  idle _ := rfl
  bytes := rfl
  enough := Nat.le_refl _

/-- With as many parts as there may be, nothing is still to come. -/
theorem Took.size_le (h : Took P limits o s data) (hfull : limits.maxParts ≤ s.1.parts.length) :
    limits.minPartSize * limits.maxParts ≤ (sentIn (P.contents s.2.store) s.1).size := by
  have hparts : (limits.minPartSize : Int) * limits.maxParts ≤
      limits.minPartSize * (s.1.parts.length : Int) :=
    Int.mul_le_mul_of_nonneg_left hfull (Int.natCast_nonneg _)
  have henough : ((limits.minPartSize * s.1.parts.length : Nat) : Int) ≤
      (sentIn (P.contents s.2.store) s.1).size := Int.ofNat_le.mpr h.enough
  rw [Int.natCast_mul] at henough
  exact Int.le_trans hparts henough

theorem Took.not_full (h : Took P limits o s data) {piece : Bytes} (hpiece : piece.size ≠ 0)
    (hfits : limits.Holds (data ++ piece)) : ¬limits.maxParts ≤ s.1.parts.length := by
  intro hfull
  have hsent := h.size_le hfull
  have hsize : (data ++ piece).size =
      (sentIn (P.contents s.2.store) s.1).size + s.1.pending.size + piece.size := by
    rw [h.bytes]
    simp only [ByteArray.size_append, Pending.size_toBytes]
  unfold Limits.Holds at hfits
  omega

/-- An open writer takes what fits. -/
theorem Took.write (h : Took P limits o s data) (piece : Bytes) (hfits : limits.Holds (data ++ piece)) :
    ∃ s', Writer.write b limits (some piece) s = (.ok piece.size, s') ∧
      Took P limits o s' (data ++ piece) ∧ s'.2.mirrors = s.2.mirrors := by
  obtain ⟨w, W⟩ := s
  have hopen : w.closed = false := h.opened
  by_cases hempty : piece.size = 0
  · obtain rfl := ByteArray.size_eq_zero_iff.mp hempty
    refine ⟨(w, W), ?_, by rwa [ByteArray.append_empty], rfl⟩
    simp only [Writer.write, Action.bind_apply, this_apply, hopen]
    rfl
  have hroom : (w.uploadId.isSome && decide (limits.maxParts ≤ w.parts.length)) = false := by
    have hlimit : ¬limits.maxParts ≤ w.parts.length := h.not_full hempty hfits
    simp [hlimit]
  simp only [Writer.write, Action.bind_apply, this_apply, hopen, Bytes.isEmpty_eq_false hempty, hroom,
    Bool.false_eq_true, ite_false]
  by_cases hlarge : limits.minPartSize ≤ w.pending.size + piece.size
  · obtain ⟨s', hsend, hs⟩ := uploadPart_sends (P := P) (W := W) (w := { w with pending := .empty })
      ⟨h.sound.ascending, h.sound.bounded, h.sound.known⟩ h.idle (w.pending.append piece).toBytes false
    simp only [hlarge, ite_true, Action.bind_apply, change_apply, hsend]
    refine ⟨s', rfl, ?_, hs.mirrors⟩
    have hblock : (w.pending.append piece).toBytes = w.pending.toBytes ++ piece := Pending.toBytes_append ..
    have hsent : sentIn (P.contents s'.2.store) s'.1 =
        sentIn (P.contents W.store) w ++ (w.pending.append piece).toBytes := hs.sent
    refine ⟨hs.object.trans h.object, hs.closed.trans hopen, hs.sound,
      fun hid => absurd hid hs.known, ?_, ?_⟩
    · rw [hsent, hs.pending, hblock, h.bytes]
      apply Bytes.ext_toList
      simp
    · have henough := h.enough
      rw [hsent, hs.count, ByteArray.size_append, Pending.size_toBytes, Nat.mul_add, Nat.mul_one]
      exact Nat.add_le_add henough hlarge
  · simp only [hlarge, ite_false, Action.bind_apply, change_apply]
    refine ⟨_, rfl, ⟨h.object, hopen, ⟨h.sound.ascending, h.sound.bounded, h.sound.known⟩, h.idle, ?_,
      h.enough⟩, rfl⟩
    show data ++ piece = sentIn (P.contents W.store) w ++ (w.pending.append piece).toBytes
    rw [h.bytes, Pending.toBytes_append]
    apply Bytes.ext_toList
    simp

/-! ## Publishing -/

/-- What it comes to that an object is published. -/
structure Publishes (P : b.Plain) (o : ObjectId) (data : Bytes) (W W' : World σ) : Prop where
  object : ((P.contents W'.store).object? o).map (·.data) = some data
  mirrors : W'.mirrors = W.mirrors

theorem completeUpload_publishes {w : Writer} {W : World σ} (hw : w.Sound (P.contents W.store))
    {id : String} (hid : w.uploadId = some id) :
    ∃ s', completeUpload b id (w, W) = (.ok (), s') ∧
      Publishes P w.object (sentIn (P.contents W.store) w) W s'.2 := by
  obtain ⟨u, hu, hparts⟩ := hw.known id hid
  have hfits : (Request.completeUpload w.object id w.parts).Fits (P.contents W.store) :=
    ⟨hw.ascending, u, hu, hparts⟩
  obtain ⟨_, hcall, -, hstore⟩ :=
    answered_of_fits P (W.logged (.completingUpload w.object w.parts.length)) hfits
  simp only [World.logged_store] at hcall hstore
  simp only [completeUpload, Action.bind_apply, this_apply, world_apply, World.log_apply,
    Action.recover_apply, World.request_apply, World.logged_store, hcall, change_apply]
  refine ⟨_, rfl, ?_, by simp⟩
  simp only [World.logged_store, hstore, Request.effect, Contents.completeUpload, hu, sentIn, hid,
    Contents.object?, Contents.put, Table.get?_insert_self, Option.map_some, Option.getD_some]

theorem putObject_publishes (w : Writer) (W : World σ) :
    ∃ s', putObject b (w, W) = (.ok (), s') ∧ Publishes P w.object w.pending.toBytes W s'.2 := by
  obtain ⟨_, hcall, -, hstore⟩ := answered_of_fits P W
    (r := .put w.object w.pending.toBytes w.pending.toBytes.size w.info) trivial
  simp only [putObject, Action.bind_apply, this_apply, world_apply, Action.mapFailure_apply,
    World.request_apply, hcall, World.count_apply]
  refine ⟨_, rfl, ?_, by simp⟩
  simp only [World.counted_store, hstore, Request.effect, Contents.object?, Contents.put,
    Table.get?_insert_self, Option.map_some]

/-- Closing publishes what was taken. -/
theorem Took.close (h : Took P limits o s data) (hfits : limits.Holds data) :
    ∃ s', Writer.close b limits s = (.ok (), s') ∧ Publishes P o data s.2 s'.2 := by
  obtain ⟨w, W⟩ := s
  have hopen : w.closed = false := h.opened
  obtain rfl : w.object = o := h.object
  have hdata : data = sentIn (P.contents W.store) w ++ w.pending.toBytes := h.bytes
  simp only [Writer.close, Action.bind_apply, this_apply, hopen, Bool.false_eq_true, ite_false,
    Action.ensuring_eq, change_apply]
  cases hid : w.uploadId with
  | none =>
    obtain ⟨s', hput, hs⟩ := putObject_publishes (P := P) w W
    rw [sentIn, hid, ByteArray.empty_append] at hdata
    simp only [hput]
    exact ⟨_, rfl, hdata ▸ hs⟩
  | some id =>
    by_cases hlast : (w.parts.length : Int) < limits.maxParts
    · obtain ⟨⟨w₁, W₁⟩, hsend, hs, hid₁⟩ := sendPart_sends h.sound hid w.pending.toBytes true
      obtain ⟨s', hcomplete, hs'⟩ := completeUpload_publishes hs.sound hid₁
      simp only [hlast, ite_true, Action.bind_apply, uploadPart_apply hid, hsend, hcomplete]
      refine ⟨_, rfl, ?_, hs'.mirrors.trans hs.mirrors⟩
      rw [hdata, ← hs.sent, ← hs.object]
      exact hs'.object
    · obtain ⟨s', hcomplete, hs'⟩ := completeUpload_publishes h.sound hid
      -- the parts hold all that there may be, so that nothing is pending
      have hsent : limits.minPartSize * limits.maxParts ≤ (sentIn (P.contents W.store) w).size :=
        h.size_le (by omega : limits.maxParts ≤ w.parts.length)
      have hpending : w.pending.toBytes = .empty := by
        refine Pending.toBytes_of_size_eq_zero ?_
        have hsize : data.size = (sentIn (P.contents W.store) w).size + w.pending.size := by
          rw [hdata, ByteArray.size_append, Pending.size_toBytes]
        unfold Limits.Holds at hfits
        omega
      simp only [hlast, ite_false, hcomplete]
      refine ⟨_, rfl, ?_, hs'.mirrors⟩
      rw [hdata, hpending, ByteArray.append_empty]
      exact hs'.object

end Writer

namespace CommandLine

open Writer

variable {σ τ : Type} {b : Backend σ τ} {P : b.Plain} {limits : Limits} {o : ObjectId}

/-- All pieces are taken. -/
theorem writePieces_took {s : Writer × World σ} {data : Bytes} (h : Took P limits o s data)
    (pieces : List Bytes) (total : Nat) (hfits : limits.Holds (data ++ .concat pieces)) :
    ∃ s', writePieces b limits total pieces s = (.ok (total + (Bytes.concat pieces).size), s') ∧
      Took P limits o s' (data ++ .concat pieces) ∧ s'.2.mirrors = s.2.mirrors := by
  induction pieces generalizing s data total with
  | nil => exact ⟨s, rfl, by rwa [show Bytes.concat [] = .empty from rfl, ByteArray.append_empty], rfl⟩
  | cons piece rest ih =>
    have hall : data ++ .concat (piece :: rest) = data ++ piece ++ .concat rest := by
      rw [Bytes.concat_cons, ByteArray.append_assoc]
    rw [hall] at hfits ⊢
    obtain ⟨s₁, hwrite, htook, hmirrors⟩ := h.write piece (hfits.of_append)
    obtain ⟨s', hrest, htook', hmirrors'⟩ := ih htook (total + piece.size) hfits
    refine ⟨s', ?_, htook', hmirrors'.trans hmirrors⟩
    simp only [writePieces, hwrite, hrest, Bytes.concat_cons, ByteArray.size_append, Nat.add_assoc]

/-- **Pieces are published whole.** -/
theorem publishPieces_publishes (P : b.Plain) (o : ObjectId) (info : ObjectInfo) (W : World σ)
    {pieces : List Bytes} (hfits : limits.Holds (.concat pieces)) :
    ∃ s', publishPieces b limits (.ok pieces) ({ object := o, info }, W) =
        (.ok (Bytes.concat pieces).size, s') ∧ Publishes P o (.concat pieces) W s'.2 := by
  have hinit := Took.initial P limits o info W
  rw [← ByteArray.empty_append (b := Bytes.concat pieces)] at hfits
  obtain ⟨s₁, hwrite, htook, hmirrors⟩ := writePieces_took hinit pieces 0 hfits
  obtain ⟨s', hclose, hs'⟩ := htook.close hfits
  rw [ByteArray.empty_append] at hs'
  refine ⟨s', ?_, hs'.object, hs'.mirrors.trans hmirrors⟩
  simp only [publishPieces, Action.bind_apply, Action.onFailure_apply, Action.ofExcept_apply, hwrite,
    hclose, Nat.zero_add, Action.pure_apply]

end CommandLine

end ObjectChannel
