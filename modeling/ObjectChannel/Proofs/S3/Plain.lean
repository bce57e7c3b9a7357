/-
The client over a service that does nothing wrong is a plain backend: the replies have the fields that
are looked for, a missing object and a range behind the end come back as refusals that the client
understands, and the parts of an upload reach the service in the order in which they are listed.
-/
import ObjectChannel.Proofs.Plain.Backend
import ObjectChannel.Proofs.S3.Range

namespace ObjectChannel.S3

open Store (Contents Stream StreamPlan)

/-! ## The service -/

namespace Service

/-- Where nothing is planned, a request is noted and served. -/
theorem call_none (streams : StreamPlan) (r : Request) (s : Service) :
    call .none streams r s = serve streams r (s.note (.request r)) := rfl

variable {streams : StreamPlan} {s : Service} {o : ObjectId}

theorem call_head_missing (h : s.contents.object? o = none) :
    call .none streams (.headObject o) s =
      (.error (refusal "404"), s.note (.request (.headObject o))) := by
  simp only [call_none, serve, Action.bind_apply, Action.get_apply, note, h]
  rfl

theorem call_head {x : StoredObject} (h : s.contents.object? o = some x) :
    call .none streams (.headObject o) s =
      (.ok { fields := headReply x }, s.note (.request (.headObject o))) := by
  simp only [call_none, serve, Action.bind_apply, Action.get_apply, note, h]
  rfl

theorem call_get_missing {range : Option String} (h : s.contents.object? o = none) :
    call .none streams (.getObject o range) s =
      (.error (refusal "NoSuchKey"), s.note (.request (.getObject o range))) := by
  simp only [call_none, serve, Action.bind_apply, Action.get_apply, note, h]
  rfl

theorem call_get {range : Option String} {x : StoredObject} {data : Bytes}
    (h : s.contents.object? o = some x) (hclip : clip x.data range = .ok data) :
    call .none streams (.getObject o range) s =
      (.ok { body := some { data, habit := streams s.streams } },
        { s.note (.request (.getObject o range)) with streams := s.streams + 1 }) := by
  simp only [call_none, serve, Action.bind_apply, Action.get_apply, note, h,
    Action.ofExcept_apply, hclip]
  rfl

theorem call_get_refused {range : Option String} {x : StoredObject} {e : Failure}
    (h : s.contents.object? o = some x) (hclip : clip x.data range = .error e) :
    call .none streams (.getObject o range) s =
      (.error e, s.note (.request (.getObject o range))) := by
  simp only [call_none, serve, Action.bind_apply, Action.get_apply, note, h,
    Action.ofExcept_apply, hclip]

theorem call_uploadPart {id : String} (n : Int) (body : Bytes) (length : Int)
    (h : (s.contents.uploads.get? id).isSome = true) :
    call .none streams (.uploadPart o id n body length) s =
      (.ok (reply [("ETag", .text s!"etag-{id}-{n}")]),
        { s.note (.request (.uploadPart o id n body length)) with
          contents := s.contents.addPart id n body }) := by
  have hthere : s.contents.uploads.contains id = true := h
  simp only [call_none, serve, Action.bind_apply, Action.get_apply, note, hthere, ite_true]
  rfl

theorem call_abortUpload {id : String} (h : (s.contents.uploads.get? id).isSome = true) :
    call .none streams (.abortUpload o id) s =
      (.ok (reply []),
        { s.note (.request (.abortUpload o id)) with contents := s.contents.abortUpload id }) := by
  have hthere : s.contents.uploads.contains id = true := h
  simp only [call_none, serve, Action.bind_apply, Action.get_apply, note, hthere, ite_true]
  rfl

theorem call_completeUpload {id : String} {u : Store.Upload} {parts : List CompletedPart}
    (hu : s.contents.uploads.get? id = some u)
    (hparts : ∀ p ∈ parts, (u.part? p.number).isSome = true) :
    call .none streams (.completeUpload o id parts) s =
      (.ok (reply []),
        { s.note (.request (.completeUpload o id parts)) with
          contents := s.contents.completeUpload id o (parts.map (·.number)) }) := by
  have hall : (parts.all fun p => (u.part? p.number).isSome) = true := List.all_eq_true.mpr hparts
  simp only [call_none, serve, Action.bind_apply, Action.get_apply, note, hu, hall, ite_true]
  rfl

/-- A written range covers what it says of an object that reaches into it. -/
theorem clip_rangeText (data : Bytes) {i j : Nat} (h : i < j) :
    clip data (some (rangeText i j)) =
      if data.size ≤ i then .error (refusal "InvalidRange") else .ok (data.slice i j) := by
  have hlast : j - 1 + 1 = j := by omega
  simp only [clip, readRange?_rangeText h, hlast]

end Service

/-! ## The client -/

namespace Client

section

variable {σ τ : Type} {nesting : Nat} {send : Dispatch σ τ} {settings : Settings} {s s' : σ} {o : ObjectId}

theorem headObject_of_missing (h : send (.headObject o) s = (.error (Service.refusal "404"), s')) :
    headObject nesting send o s = (.ok { found := false }, s') := by
  simp only [headObject, requestHead, Action.bind_apply, Action.recover_apply, Action.map_apply, h]
  rfl

theorem headObject_of_reply {x : StoredObject} {body : Option τ}
    (h : send (.headObject o) s = (.ok { fields := Service.headReply x, body }, s')) :
    ∃ head, headObject nesting send o s = (.ok head, s') ∧ head.found = true := by
  simp only [headObject, requestHead, Action.bind_apply, Action.recover_apply, Action.map_apply, h]
  exact ⟨_, rfl, rfl⟩

theorem sent_of_reply {activity : String} {r : Request} {reply : Reply τ}
    (h : send r s = (.ok reply, s')) : sending send activity r s = (.ok reply, s') := by
  simp only [sending, Action.mapFailure_apply, h]
  rfl

theorem beginUpload_of_reply {info : ObjectInfo} {id : String} {body : Option τ}
    (h : send (.createUpload o (writeParams settings info)) s =
      (.ok { fields := .object [("UploadId", .text id)], body }, s')) (hid : id ≠ "") :
    beginUpload nesting send settings o info s = (.ok { uploadId := id, object := o }, s') := by
  have hpresent : (Value.text id).isPresent = true := bne_iff_ne.mpr hid
  have hfield : field ({ fields := .object [("UploadId", .text id)], body } : Reply τ) "UploadId" =
      .ok (.text id) := rfl
  simp only [beginUpload, Action.bind_apply, sent_of_reply h, hfield, Action.ofExcept_apply, hpresent,
    ite_true]
  rfl

theorem uploadPart_of_reply {id tag : String} {n : Int} {data : Bytes} {length : Int}
    {body : Option τ}
    (h : send (.uploadPart o id n data length) s =
      (.ok { fields := .object [("ETag", .text tag)], body }, s')) (htag : tag ≠ "") :
    uploadPart nesting send o id (.int n) data (.int length) s = (.ok { number := n, tag }, s') := by
  have hpresent : (Value.text tag).isPresent = true := bne_iff_ne.mpr htag
  have hfield : field ({ fields := .object [("ETag", .text tag)], body } : Reply τ) "ETag" =
      .ok (.text tag) := rfl
  simp only [uploadPart, Numeral.value, Action.bind_apply, Action.recover_apply,
    Action.ofExcept_apply, h, Action.pure_apply, hfield, hpresent, ite_true]
  rfl

theorem abortUpload_of_reply {id : String} {reply : Reply τ}
    (h : send (.abortUpload o id) s = (.ok reply, s')) : abortUpload send o id s = (.ok (), s') := by
  simp only [abortUpload, Action.bind_apply, sent_of_reply h]
  rfl

theorem uploadFile_of_reply {content : Bytes} {workers : Int} {info : ObjectInfo} {reply : Reply τ}
    (hworkers : 0 < workers)
    (h : send (.uploadFile o content (writeParams settings info) workers) s = (.ok reply, s')) :
    uploadFile send settings o content (.int workers) info s = (.ok (), s') := by
  have hcount : workersOf (.int workers) = .ok workers := if_pos hworkers
  simp only [uploadFile, hcount, Action.bind_apply, Action.ofExcept_apply, Action.mapFailure_apply, h]
  rfl

/-- The parts of an upload are sent as they are listed, if they are listed in ascending order. -/
theorem completeUpload_of_reply {id : String} {parts : List CompletedPart} {reply : Reply τ}
    (hsorted : (parts.map (·.number)).Pairwise (· < ·))
    (h : send (.completeUpload o id parts) s = (.ok reply, s')) :
    completeUpload send o id (parts.map fun p => { number := .int p.number, tag := p.tag }) s =
      (.ok (), s') := by
  let listed : List ListedPart := parts.map fun p => { number := .int p.number, tag := p.tag }
  have hcomparable : (listed.all fun p => listed.all fun q => (p.number.le? q.number).isSome) = true := by
    simp [listed, Numeral.le?]
  have hlisted : listed.Pairwise fun p q => (p.number.le? q.number).getD true = true := by
    rw [List.pairwise_map] at hsorted ⊢
    refine hsorted.imp fun hlt => ?_
    simp only [Numeral.le?, Option.getD_some, decide_eq_true_eq]
    omega
  have hsort : sortParts listed = .ok listed := by
    rw [sortParts, if_pos hcomparable, List.mergeSort_of_pairwise hlisted]
  have hnumbered : (listed.mapM fun p => do
      return ({ number := ← p.number.value, tag := p.tag } : CompletedPart)) = .ok parts := by
    rw [List.mapM_map]
    have hpure := List.mapM_pure (m := Except Failure) (l := parts) (f := fun p => p)
    rw [List.map_id'] at hpure
    exact hpure
  show completeUpload send o id listed s = _
  simp only [completeUpload, Action.bind_apply, hsort, hnumbered, Action.ofExcept_apply, sent_of_reply h]
  rfl

theorem getObject_whole {reply : Reply τ} {t : τ} (ht : reply.body = some t)
    (h : send (.getObject o none) s = (.ok reply, s')) :
    getObject nesting send o none s = (.ok (.remote t), s') := by
  simp only [getObject, Action.bind_apply, sent_of_reply h, Action.ofExcept_apply, bodyOf, ht]

section

variable {i j : Nat} (hij : i < j)

include hij

theorem getObject_beyond (hj : ¬j ≤ positionLimit) :
    getObject nesting send o (some (i, j)) s = (.error .tooManyDigits, s) := by
  have hcovers : ¬(j : Int) ≤ i := by omega
  simp only [getObject, hcovers, ite_false, writtenRange_eq hij, hj, Action.bind_apply,
    Action.ofExcept_apply]

variable (hj : j ≤ positionLimit)

include hj

theorem getObject_range {reply : Reply τ} {t : τ} (ht : reply.body = some t)
    (h : send (.getObject o (some (rangeText i j))) s = (.ok reply, s')) :
    getObject nesting send o (some (i, j)) s = (.ok (.remote t), s') := by
  have hcovers : ¬(j : Int) ≤ i := by omega
  simp only [getObject, hcovers, ite_false, writtenRange_eq hij, hj, ite_true, Action.bind_apply,
    Action.ofExcept_apply, requestRange, Action.recover_apply, Action.map_apply, h, Except.map,
    bodyOf, ht]

/-- Behind the end of an object there is nothing. -/
theorem getObject_behind
    (h : send (.getObject o (some (rangeText i j))) s =
      (.error (Service.refusal "InvalidRange"), s')) :
    getObject nesting send o (some (i, j)) s = (.ok .empty, s') := by
  have hcovers : ¬(j : Int) ≤ i := by omega
  have hcode : errorCode nesting (Service.refusal "InvalidRange") = .ok (some "InvalidRange") := rfl
  have hordinary : (Service.refusal "InvalidRange").isInterrupt = false := rfl
  simp only [getObject, hcovers, ite_false, writtenRange_eq hij, hj, ite_true, Action.bind_apply,
    Action.ofExcept_apply, requestRange, Action.recover_apply, Action.map_apply, h, Except.map,
    hcode, hordinary, Bool.false_eq_true]
  rfl

theorem getObject_missing
    (h : send (.getObject o (some (rangeText i j))) s = (.error (Service.refusal "NoSuchKey"), s')) :
    getObject nesting send o (some (i, j)) s =
      (.error (.requestFailed "get object" (Service.refusal "NoSuchKey")), s') := by
  have hcovers : ¬(j : Int) ≤ i := by omega
  have hcode : errorCode nesting (Service.refusal "NoSuchKey") = .ok (some "NoSuchKey") := rfl
  have hordinary : (Service.refusal "NoSuchKey").isInterrupt = false := rfl
  have hother : ¬some "NoSuchKey" = some "InvalidRange" := by decide
  simp only [getObject, hcovers, ite_false, writtenRange_eq hij, hj, ite_true, Action.bind_apply,
    Action.ofExcept_apply, requestRange, Action.recover_apply, Action.map_apply, h, Except.map,
    hcode, hordinary, hother, Bool.false_eq_true, Action.fail_apply]

end

end

/-- A request that fits goes well, and does at the service what it should. -/
theorem answer_fits {nesting : Nat} {streams : StreamPlan} {settings : Settings} {s : Service}
    {r : ObjectChannel.Request} (hr : r.Fits s.contents.bare) :
    ∃ x s', answer nesting (Service.call .none streams) settings r s = (.ok x, s') ∧
      r.Says s.contents.bare x ∧ s'.contents.bare = r.effect s.contents.bare := by
  cases r with
  | put o body length info => exact ⟨_, _, rfl, trivial, Contents.bare_put ..⟩
  | get => cases hr
  | head o =>
    have hfound : (s.contents.bare.object? o).isSome = (s.contents.object? o).isSome := by
      rw [Contents.object?_bare, Option.isSome_map]
    simp only [ObjectChannel.Request.Says, hfound]
    cases hx : s.contents.object? o with
    | none => exact ⟨_, _, headObject_of_missing (Service.call_head_missing hx), rfl, rfl⟩
    | some x =>
      obtain ⟨head, hhead, hthere⟩ := headObject_of_reply (Service.call_head hx)
      exact ⟨head, _, hhead, hthere, rfl⟩
  | delete o => exact ⟨_, _, rfl, trivial, Contents.bare_delete ..⟩
  | beginUpload o info =>
    have hid : s.contents.nextUploadId ≠ "" := by simp [Contents.nextUploadId]
    exact ⟨_, _, beginUpload_of_reply rfl hid, s.contents.nextUploadId_bare.symm,
      Contents.bare_beginUpload ..⟩
  | uploadPart o id n body length last =>
    have hthere : (s.contents.uploads.get? id).isSome = true := by
      rwa [ObjectChannel.Request.Fits, Contents.upload?_bare, Option.isSome_map] at hr
    have htag : s!"etag-{id}-{n}" ≠ "" := by simp
    exact ⟨_, _, uploadPart_of_reply (Service.call_uploadPart n body length hthere) htag, rfl,
      Contents.bare_changeUpload _ _ _ fun _ => rfl⟩
  | completeUpload o id parts =>
    obtain ⟨hsorted, u, hu, hparts⟩ := hr
    obtain ⟨v, hv, rfl⟩ : ∃ v, s.contents.uploads.get? id = some v ∧ v.bare = u := by
      simpa [Contents.upload?_bare] using hu
    exact ⟨_, _, completeUpload_of_reply hsorted (Service.call_completeUpload hv hparts), trivial,
      Contents.bare_completeUpload ..⟩
  | abortUpload o id =>
    have hthere : (s.contents.uploads.get? id).isSome = true := by
      rwa [ObjectChannel.Request.Fits, Contents.upload?_bare, Option.isSome_map] at hr
    exact ⟨(), _, abortUpload_of_reply (Service.call_abortUpload hthere), trivial,
      Contents.bare_changeUpload _ _ _ fun _ => rfl⟩
  | uploadFile o path content workers info =>
    exact ⟨(), _, uploadFile_of_reply hr rfl, trivial, Contents.bare_put ..⟩

end Client

/-! ## Both together -/

/-- The bytes that a stream has still to give. -/
def Body.left : Body Stream → Bytes
  | .empty => .empty
  | .remote t => t.left

def Body.IsWhole : Body Stream → Prop
  | .empty => True
  | .remote t => t.habit.IsWhole

section

variable (settings : Settings) (nesting : Nat) {streams : StreamPlan} (h : ∀ n, (streams n).IsWhole)

theorem backend_streams : (backend settings .none streams nesting).WholeStreams Body.left Body.IsWhole := by
  refine ⟨?_⟩
  intro t n ht hn
  cases t with
  | empty => exact ⟨_, _, rfl, trivial, rfl, Nat.zero_le n, fun _ => rfl⟩
  | remote t =>
    obtain ⟨chunk, t', hread, hwhole, hleft, hsize, hend⟩ := Stream.read_of_isWhole ht hn
    refine ⟨chunk, .remote t', ?_, hwhole, hleft, hsize, hend⟩
    show (t.read (some n)).map _ = _
    rw [hread]
    rfl

theorem backend_fits (r : ObjectChannel.Request) (s : Service) (hr : r.Fits s.contents.bare) :
    ∃ x s', (backend settings .none streams nesting).call r s = (.ok x, s') ∧ r.Says s.contents.bare x ∧
      s'.contents.bare = r.effect s.contents.bare := Client.answer_fits hr

include h in
/-- What lies behind the end of an object is not asked of the service a second time. -/
theorem backend_object (o : ObjectId) (s : Service) (x : StoredObject) (range : Option (Nat × Nat))
    (hx : s.contents.bare.object? o = some x)
    (hrange : ∀ i j, range = some (i, j) → i < j ∧ j ≤ positionLimit) :
    ∃ t s', (backend settings .none streams nesting).call (.get o range) s = (.ok t, s') ∧ t.IsWhole ∧
      t.left = Store.MemoryStore.clip x.data range ∧ s'.contents.bare = s.contents.bare := by
  obtain ⟨y, hy, rfl⟩ : ∃ y, s.contents.object? o = some y ∧ y.bare = x := by
    simpa [Contents.object?_bare] using hx
  cases range with
  | none =>
    have hcall : Client.getObject nesting (Service.call .none streams) o none s = _ :=
      Client.getObject_whole rfl (Service.call_get hy rfl)
    exact ⟨.remote { data := y.data, habit := streams s.streams }, _, hcall, h _,
      Bytes.ext_toList (by simp [Body.left, Stream.left]; rfl), rfl⟩
  | some range =>
    obtain ⟨i, j⟩ := range
    obtain ⟨hij, hj⟩ := hrange i j rfl
    have hclip := Service.clip_rangeText y.data hij
    by_cases hi : y.data.size ≤ i
    · rw [if_pos hi] at hclip
      have hnone : (y.data.slice i j).size = 0 := by
        rw [Bytes.size_slice]
        omega
      exact ⟨_, _, Client.getObject_behind hij hj (Service.call_get_refused hy hclip), trivial,
        (ByteArray.size_eq_zero_iff.mp hnone).symm, rfl⟩
    · rw [if_neg hi] at hclip
      exact ⟨.remote { data := y.data.slice i j, habit := streams s.streams }, _,
        Client.getObject_range hij hj rfl (Service.call_get hy hclip), h _,
        Bytes.ext_toList (by simp [Body.left, Stream.left]; rfl), rfl⟩

theorem backend_missing (o : ObjectId) (s : Service) (i j : Nat)
    (hx : s.contents.bare.object? o = none) (hij : i < j) (hj : j ≤ positionLimit) :
    ∃ e s', (backend settings .none streams nesting).call (.get o (some (i, j))) s = (.error e, s') ∧
      e.isInterrupt = false ∧ e ≠ .tooManyDigits ∧ s'.contents.bare = s.contents.bare := by
  have hx : s.contents.object? o = none := by simpa [Contents.object?_bare] using hx
  exact ⟨_, _, Client.getObject_missing hij hj (Service.call_get_missing hx), rfl,
    (fun he => by cases he), rfl⟩

theorem backend_beyond (o : ObjectId) (s : Service) (i j : Nat) (hij : i < j)
    (hj : ¬j ≤ positionLimit) :
    ∃ s', (backend settings .none streams nesting).call (.get o (some (i, j))) s =
      (.error .tooManyDigits, s') ∧ s'.contents.bare = s.contents.bare :=
  ⟨_, Client.getObject_beyond hij hj, rfl⟩

theorem backend_close (t : Body Stream) (s : Service) (ht : t.IsWhole) :
    ∃ s', (backend settings .none streams nesting).close t s = (.ok (), s') ∧
      s'.contents.bare = s.contents.bare := by
  cases t with
  | empty => exact ⟨s, rfl, rfl⟩
  | remote t =>
    have hclose : t.habit.closeFails = false := ht.2.2.2
    refine ⟨s.note (.closeStream t.delivered), ?_, rfl⟩
    show Service.close t s = _
    simp only [Service.close, Action.bind_apply, Action.modify_apply, Stream.close, hclose]
    rfl

/-- The client is plain over a service where nothing is planned to fail and all streams are whole. It
can be asked for the ranges that it can write. -/
def plain : (backend settings .none streams nesting).Plain where
  contents s := s.contents.bare
  Reaches j := j ≤ positionLimit
  left := Body.left
  IsWhole := Body.IsWhole
  streams := backend_streams settings nesting
  call_fits := backend_fits settings nesting
  get_object := backend_object settings nesting h
  get_missing := backend_missing settings nesting
  get_beyond := backend_beyond settings nesting
  close_whole := backend_close settings nesting

end

end ObjectChannel.S3
