/-
What becomes of multipart uploads where requests may be interrupted as well as fail. An upload stays
with its writer while that is open, also past an interrupted write. Once the writer is closed, the
upload has been completed, or its abort has been attempted, with one exception: an interrupt that
stops closing at the last part or at the completion closes the writer with the upload left as it is,
and no later operation asks for anything.

`upload_fates` says this of every run. `interrupted_close_leaves_upload` is a run with the exception.
-/
import ObjectChannel.Proofs.Writer.AllOrNothing

namespace ObjectChannel

variable {σ τ : Type}

namespace Exchange

/-- The store began an upload with this name. -/
def begins (id : String) : Exchange τ → Bool
  | .call (.beginUpload ..) (.ok u) => u.uploadId == id
  | _ => false

/-- Closing was interrupted here: at the last part of this upload, or at its completion. -/
def cutsClosing (id : String) : Exchange τ → Bool
  | .call (.uploadPart _ id' _ _ _ true) (.error e) => id' == id && e.isInterrupt
  | .call (.completeUpload _ id' _) (.error e) => id' == id && e.isInterrupt
  | _ => false

/-- Nothing is asked of this upload after this. -/
def endsUpload (id : String) (x : Exchange τ) : Bool :=
  x.completes id || x.aborts id || x.cutsClosing id

/-- A request that fails in the ordinary way ends no upload, unless it is an abort. -/
theorem endsUpload_refused {r : Request} {e : Failure} (he : e.isInterrupt = false)
    (ha : ∀ o id, r ≠ .abortUpload o id) (id : String) :
    (call r (.error e) : Exchange τ).endsUpload id = false := by
  cases r with
  | abortUpload o id => exact absurd rfl (ha o id)
  | uploadPart o id n block length last => cases last <;> simp [endsUpload, completes, aborts,
      cutsClosing, he]
  | _ => simp [endsUpload, completes, aborts, cutsClosing, he]

/-- An upload ends in one way. -/
theorem countP_endsUpload (id : String) (log : List (Exchange τ)) :
    log.countP (endsUpload id) =
      log.countP (completes id) + log.countP (aborts id) + log.countP (cutsClosing id) := by
  induction log with
  | nil => rfl
  | cons x log ih =>
    have hx : (if x.endsUpload id then 1 else 0) = (if x.completes id then 1 else 0) +
        (if x.aborts id then 1 else 0) + (if x.cutsClosing id then 1 else 0) := by
      match x with
      | .call (.completeUpload ..) (.ok _) => simp [endsUpload, completes, aborts, cutsClosing]
      | .call (.completeUpload ..) (.error _) => simp [endsUpload, completes, aborts, cutsClosing]
      | .call (.abortUpload ..) _ => simp [endsUpload, completes, aborts, cutsClosing]
      | .call (.uploadPart _ _ _ _ _ true) (.ok _) => rfl
      | .call (.uploadPart _ _ _ _ _ true) (.error _) =>
        simp [endsUpload, completes, aborts, cutsClosing]
      | .call (.uploadPart _ _ _ _ _ false) _ => rfl
      | .call (.put ..) _ | .call (.get ..) _ | .call (.head ..) _ | .call (.delete ..) _
      | .call (.beginUpload ..) _ | .call (.uploadFile ..) _ | .closing .. => rfl
    simp only [List.countP_cons, ih, hx]
    omega

end Exchange

namespace Writer

variable {limits : Limits} {w w' : Writer} {log es : List (Exchange τ)}

/-- The store began this upload. -/
def Began (log : List (Exchange τ)) (id : String) : Prop := ∃ x ∈ log, x.begins id = true

theorem Began.of_append {id : String} (h : Began (log ++ es) id)
    (hes : ∀ x ∈ es, x.begins id = false) : Began log id := by
  obtain ⟨x, hx, hb⟩ := h
  rcases List.mem_append.mp hx with hx | hx
  · exact ⟨x, hx, hb⟩
  · simp [hes x hx] at hb

/-- The only upload is the one in progress, and nothing has ended it. -/
structure Holding (w : Writer) (log : List (Exchange τ)) : Prop where
  current : ∀ id, Began log id → w.uploadId = some id
  unended : ∀ id, log.countP (Exchange.endsUpload id) = 0

/-- Every upload was ended, once. -/
def AllEnded (log : List (Exchange τ)) : Prop :=
  ∀ id, Began log id → log.countP (Exchange.endsUpload id) = 1

/-- What a writer has to do with uploads: it holds one while it is open, at most. -/
inductive Uploads (w : Writer) (log : List (Exchange τ)) : Prop where
  | held (hc : w.closed = false) (h : Holding w log)
  | ended (hc : w.closed = true) (h : AllEnded log)

/-- What neither begins nor ends an upload leaves it in progress. -/
theorem Holding.append (h : Holding w log) (hid : w'.uploadId = w.uploadId)
    (hb : ∀ x ∈ es, ∀ id, x.begins id = false) (hn : ∀ id, es.countP (Exchange.endsUpload id) = 0) :
    Holding w' (log ++ es) :=
  ⟨fun id hu => hid.trans (h.current id (hu.of_append fun x hx => hb x hx id)), fun id => by
    rw [List.countP_append, h.unended, hn]⟩

/-- What ends the upload in progress ends all. -/
theorem Holding.end (h : Holding w log) {id : String} (hid : w.uploadId = some id)
    (hb : ∀ x ∈ es, ∀ id, x.begins id = false) (hn : es.countP (Exchange.endsUpload id) = 1) :
    AllEnded (log ++ es) := by
  intro id' hu
  obtain rfl : id = id' := by
    simpa [hid] using h.current id' (hu.of_append fun x hx => hb x hx id')
  rw [List.countP_append, h.unended, hn]

/-- Without an upload there is none to be ended. -/
theorem Holding.end_none (h : Holding w log) (hid : w.uploadId = none)
    (hb : ∀ x ∈ es, ∀ id, x.begins id = false) : AllEnded (log ++ es) := by
  intro id hu
  simpa [hid] using h.current id (hu.of_append fun x hx => hb x hx id)

/-! ## Moves -/

theorem AbortMove.of_some {id : String} {r : Except Failure Unit} (hid : w.uploadId = some id)
    (m : AbortMove w es r w') : ∃ x, es = [.call (.abortUpload w.object id) x] := by
  cases m with
  | none hid' => simp [hid] at hid'
  | attempt hid' x =>
    obtain rfl : id = _ := by simpa [hid] using hid'
    exact ⟨x, rfl⟩

/-- Aborting ends the upload in progress. -/
theorem Holding.abort {v : Writer} {r : Except Failure Unit} (h : Holding w log)
    (m : AbortMove v es r w') (hv : v.uploadId = w.uploadId) : AllEnded (log ++ es) := by
  cases hid : v.uploadId with
  | none =>
    obtain ⟨rfl, -, -⟩ := m.of_none hid
    exact h.end_none (hv.symm.trans hid) (List.forall_mem_nil _)
  | some id =>
    obtain ⟨x, rfl⟩ := m.of_some hid
    exact h.end (hv.symm.trans hid) (by simp [Exchange.begins])
      (by simp [Exchange.endsUpload, Exchange.aborts])

/-- A failure, and the abort after it. -/
theorem Holding.abort_after {v : Writer} {r : Except Failure Unit} {request : Request} {e : Failure}
    (h : Holding w log) (m : AbortMove v es r w') (hv : v.uploadId = w.uploadId)
    (he : e.isInterrupt = false) (ha : ∀ o id, request ≠ .abortUpload o id) :
    AllEnded (log ++ .call request (.error e) :: es) := by
  have hx : Holding w (log ++ [.call request (.error e)]) :=
    h.append rfl (by simp [Exchange.begins]) fun id => by
      simp [Exchange.endsUpload_refused he ha id]
  have := hx.abort m hv
  rwa [List.append_assoc, List.singleton_append] at this

/-- A part of a write leaves the upload in progress, or closes the writer having it aborted. -/
theorem PartMove.uploads {id : String} {block : Bytes} {r : Except Failure Unit}
    (m : PartMove w id block false es r w') (hc : w.closed = false) (h : Holding w log) :
    Uploads w' (log ++ es) := by
  cases m with
  | taken p =>
    exact .held hc (h.append rfl (by simp [partRequest, Exchange.begins]) fun _ => rfl)
  | refused he abort =>
    exact .ended abort.closed_eq (h.abort_after abort rfl he (by simp [partRequest]))
  | interrupted he =>
    exact .held hc (h.append rfl (by simp [partRequest, Exchange.begins]) fun _ => rfl)

/-- The last part leaves the upload in progress, or ends it. -/
theorem PartMove.last {id : String} {block : Bytes} {r : Except Failure Unit}
    (m : PartMove w id block true es r w') (hid : w.uploadId = some id) (h : Holding w log) :
    (r = .ok () ∧ w'.uploadId = some id ∧ Holding w' (log ++ es)) ∨
      (∃ e, r = .error e) ∧ AllEnded (log ++ es) := by
  cases m with
  | taken p =>
    exact .inl ⟨rfl, hid, h.append rfl (by simp [partRequest, Exchange.begins]) fun _ => rfl⟩
  | @refused e es r w' he abort =>
    refine .inr ⟨?_, h.abort_after abort rfl he (by simp [partRequest])⟩
    cases r <;> exact ⟨_, rfl⟩
  | interrupted he =>
    refine .inr ⟨⟨_, rfl⟩, h.end hid (by simp [partRequest, Exchange.begins]) ?_⟩
    simp [partRequest, Exchange.endsUpload, Exchange.cutsClosing, he]

theorem UploadMove.uploads {block : Bytes} {r : Except Failure Unit}
    (m : UploadMove w block false es r w') (hc : w.closed = false) (h : Holding w log) :
    Uploads w' (log ++ es) := by
  cases m with
  | further hid part => exact part.uploads hc h
  | @first es r w' hid u part =>
    have hbegun : Holding { w with uploadId := some u.uploadId, parts := [] }
        (log ++ [.call (.beginUpload w.object w.info) (.ok u)]) := by
      refine ⟨fun id ⟨x, hx, hb⟩ => ?_, fun id => by rw [List.countP_append, h.unended]; rfl⟩
      rcases List.mem_append.mp hx with hx | hx
      · simpa [hid] using h.current id ⟨x, hx, hb⟩
      · obtain rfl := List.mem_singleton.mp hx
        rw [eq_of_beq hb]
    have := part.uploads hc hbegun
    rwa [List.append_assoc, List.singleton_append] at this
  | refused hid he => exact .ended rfl (h.end_none hid (by simp [Exchange.begins]))
  | interrupted hid he => exact .held hc (h.append rfl (by simp [Exchange.begins]) fun _ => rfl)

/-- Completing an upload ends it, also where it fails or is interrupted. -/
theorem CompleteMove.ends {id : String} {r : Except Failure Unit}
    (m : CompleteMove w id es r w') (hid : w.uploadId = some id) (h : Holding w log) :
    AllEnded (log ++ es) := by
  cases m with
  | completed =>
    refine h.end hid (by simp [Exchange.begins]) ?_
    simp [Exchange.endsUpload, Exchange.completes]
  | refused he abort =>
    exact h.abort_after abort rfl he (by simp)
  | interrupted he =>
    refine h.end hid (by simp [Exchange.begins]) ?_
    simp [Exchange.endsUpload, Exchange.cutsClosing, he]

/-- Publishing ends the upload in progress, however it goes. -/
theorem PublishMove.ends {r : Except Failure Unit} (m : PublishMove limits w es r w')
    (h : Holding w log) : AllEnded (log ++ es) := by
  cases m with
  | stored hid | notStored hid => exact h.end_none hid (by simp [Exchange.begins])
  | assembled hid hl complete => exact complete.ends hid h
  | extended hid hl upload complete =>
    cases upload with
    | first hid' => simp [hid] at hid'
    | further hid' part =>
      obtain rfl : _ = _ := Option.some.inj (hid'.symm.trans hid)
      obtain ⟨-, hid₁, h₁⟩ | ⟨⟨e, he⟩, -⟩ := part.last hid h
      · rw [← List.append_assoc]
        exact complete.ends hid₁ h₁
      · cases he
  | stopped hid hl upload =>
    cases upload with
    | first hid' | refused hid' | interrupted hid' => simp [hid] at hid'
    | further hid' part =>
      obtain ⟨hr, -⟩ | ⟨-, hend⟩ := part.last hid' h
      · cases hr
      · exact hend

/-- **Every move keeps what a writer has to do with uploads.** -/
theorem Uploads.move {op : Operation} {r : Except Failure Answer} (h : Uploads w log)
    (m : Move limits w op es r w') : Uploads w' (log ++ es) := by
  cases h with
  | ended hc hend =>
    obtain ⟨rfl, hc'⟩ := m.silent hc
    rw [List.append_nil]
    exact .ended hc' hend
  | held hc h =>
    have hsame : ∀ {v : Writer}, v.uploadId = w.uploadId → Holding v (log ++ []) := fun hv =>
      h.append hv (List.forall_mem_nil _) fun _ => rfl
    cases m with
    | write m =>
      cases m with
      | closed hc' => simp [hc] at hc'
      | notBytes | nothing | held => exact .held hc (hsame rfl)
      | full hc' hd hf abort =>
        exact .ended abort.closed_eq (h.abort abort rfl)
      | sent hc' hd hf hs upload => exact upload.uploads hc ⟨h.current, h.unended⟩
    | close hop m =>
      cases m with
      | again hc' => simp [hc] at hc'
      | published hc' publish => exact .ended rfl (publish.ends h)
    | discard hop m =>
      cases m with
      | again hc' => simp [hc] at hc'
      | dropped hc' abort =>
        exact .ended abort.closed_eq (h.abort abort rfl)
    | other => exact .held hc (hsame rfl)

/-! ## Interrupted closing -/

theorem AbortMove.not_cut {r : Except Failure Unit} (m : AbortMove w es r w') {x : Exchange τ}
    (hx : x ∈ es) (id : String) : x.cutsClosing id = false := by
  cases m with
  | none => cases hx
  | attempt => rw [List.mem_singleton.mp hx]; rfl

theorem PartMove.cut {id id' : String} {block : Bytes} {isLast : Bool} {r : Except Failure Unit}
    (m : PartMove w id block isLast es r w') {x : Exchange τ} (hx : x ∈ es)
    (hcut : x.cutsClosing id' = true) :
    isLast = true ∧ ∃ e, e.isInterrupt = true ∧ x.failure? = some e ∧ r = .error e := by
  cases m with
  | taken => rw [List.mem_singleton.mp hx] at hcut; cases isLast <;> cases hcut
  | refused he abort =>
    rcases List.mem_cons.mp hx with rfl | hx
    · cases isLast <;> simp [partRequest, Exchange.cutsClosing, he] at hcut
    · simp [abort.not_cut hx] at hcut
  | interrupted he =>
    obtain rfl := List.mem_singleton.mp hx
    cases isLast with
    | false => cases hcut
    | true => exact ⟨rfl, _, he, rfl, rfl⟩

theorem UploadMove.cut {id : String} {block : Bytes} {isLast : Bool} {r : Except Failure Unit}
    (m : UploadMove w block isLast es r w') {x : Exchange τ} (hx : x ∈ es)
    (hcut : x.cutsClosing id = true) :
    isLast = true ∧ ∃ e, e.isInterrupt = true ∧ x.failure? = some e ∧ r = .error e := by
  cases m with
  | further hid part => exact part.cut hx hcut
  | first hid u part =>
    rcases List.mem_cons.mp hx with rfl | hx
    · cases hcut
    · exact part.cut hx hcut
  | refused | interrupted => rw [List.mem_singleton.mp hx] at hcut; cases hcut

theorem CompleteMove.cut {id id' : String} {r : Except Failure Unit}
    (m : CompleteMove w id es r w') {x : Exchange τ} (hx : x ∈ es)
    (hcut : x.cutsClosing id' = true) :
    ∃ e, e.isInterrupt = true ∧ x.failure? = some e ∧ r = .error e := by
  cases m with
  | completed => rw [List.mem_singleton.mp hx] at hcut; cases hcut
  | refused he abort =>
    rcases List.mem_cons.mp hx with rfl | hx
    · simp [Exchange.cutsClosing, he] at hcut
    · simp [abort.not_cut hx] at hcut
  | interrupted he =>
    obtain rfl := List.mem_singleton.mp hx
    exact ⟨_, he, rfl, rfl⟩

theorem PublishMove.cut {id : String} {r : Except Failure Unit}
    (m : PublishMove limits w es r w') {x : Exchange τ} (hx : x ∈ es)
    (hcut : x.cutsClosing id = true) :
    ∃ e, e.isInterrupt = true ∧ x.failure? = some e ∧ r = .error e := by
  cases m with
  | stored | notStored => rw [List.mem_singleton.mp hx] at hcut; cases hcut
  | assembled hid hl complete => exact complete.cut hx hcut
  | stopped hid hl upload => exact (upload.cut hx hcut).2
  | extended hid hl upload complete =>
    rcases List.mem_append.mp hx with hx | hx
    · obtain ⟨-, e, -, -, hr⟩ := upload.cut hx hcut
      cases hr
    · exact complete.cut hx hcut

/-- Only closing is cut off so: it fails with the interrupt, and leaves the writer closed. -/
theorem Move.cut {id : String} {op : Operation} {r : Except Failure Answer}
    (m : Move limits w op es r w') {x : Exchange τ} (hx : x ∈ es)
    (hcut : x.cutsClosing id = true) :
    op.closes = true ∧ w'.closed = true ∧
      ∃ e, e.isInterrupt = true ∧ x.failure? = some e ∧ r = .error e := by
  cases m with
  | write m =>
    cases m with
    | closed | notBytes | nothing | held => cases hx
    | full hc hd hf abort => simp [abort.not_cut hx] at hcut
    | sent hc hd hf hs upload => cases (upload.cut hx hcut).1
  | close hop m =>
    cases m with
    | again => cases hx
    | published hc publish =>
      obtain ⟨e, he, hf, rfl⟩ := publish.cut hx hcut
      exact ⟨hop, rfl, e, he, hf, rfl⟩
  | discard hop m =>
    cases m with
    | again => cases hx
    | dropped hc abort => simp [abort.not_cut hx] at hcut
  | other => cases hx

/-! ## Runs -/

variable {e : Channel.Setting σ τ} {ops : List Operation} {s : Writer × World (Recorded σ τ)}

theorem uploads_of_run (h : Uploads s.1 s.2.store.log) :
    Uploads (final e ops s).1 (final e ops s).2.store.log := by
  induction ops generalizing s with
  | nil => exact h
  | cons op ops ih =>
    have ht : _ ∈ turns e (op :: ops) s := List.mem_cons_self
    have hstep := h.move (move_of_mem_turns ht)
    rw [← (serves e.recorded).log_after ht] at hstep
    exact ih hstep

/-- What becomes of the uploads in a run of a writer, whatever requests fail or are interrupted. -/
structure UploadFates (e : Channel.Setting σ τ) (ops : List Operation)
    (s : Writer × World (Recorded σ τ)) : Prop where
  /-- An upload is the writer's own as long as the writer is open. -/
  held : (final e ops s).1.closed = false → ∀ id, Began (final e ops s).2.store.log id →
    (final e ops s).1.uploadId = some id ∧
      (final e ops s).2.store.log.countP (Exchange.completes id) = 0 ∧
      (final e ops s).2.store.log.countP (Exchange.aborts id) = 0
  /-- Once it is closed the upload was completed, or an attempt made to abort it, and not both;
  unless an interrupt stopped closing. -/
  released : (final e ops s).1.closed = true → ∀ id, Began (final e ops s).2.store.log id →
    (final e ops s).2.store.log.countP (Exchange.cutsClosing id) = 0 →
    ((final e ops s).2.store.log.countP (Exchange.completes id) = 1 ∧
        (final e ops s).2.store.log.countP (Exchange.aborts id) = 0) ∨
      ((final e ops s).2.store.log.countP (Exchange.completes id) = 0 ∧
        (final e ops s).2.store.log.countP (Exchange.aborts id) = 1)
  /-- In that case it was neither. -/
  dangling : ∀ id, Began (final e ops s).2.store.log id →
    0 < (final e ops s).2.store.log.countP (Exchange.cutsClosing id) →
    (final e ops s).1.closed = true ∧
      (final e ops s).2.store.log.countP (Exchange.completes id) = 0 ∧
      (final e ops s).2.store.log.countP (Exchange.aborts id) = 0
  /-- The interrupt comes in closing, goes on as it is, and leaves the writer closed. -/
  cut : ∀ t ∈ turns e ops s, ∀ x ∈ t.exchanges, ∀ id, x.cutsClosing id = true →
    t.operation.closes = true ∧ t.after.1.closed = true ∧
      ∃ f, f.isInterrupt = true ∧ x.failure? = some f ∧ t.outcome = .error f
  /-- A closed writer asks for nothing any more, and stays closed. -/
  closed : ∀ t ∈ turns e ops s, t.before.1.closed = true →
    t.exchanges = [] ∧ t.after.1.closed = true

/-- **While a writer is open its upload is its own; once it is closed the upload was completed or
aborted, unless an interrupt stopped closing.** -/
theorem upload_fates (e : Channel.Setting σ τ) (o : ObjectId) (info : ObjectInfo)
    (ops : List Operation) (W : World (Recorded σ τ)) (hlog : W.store.log = []) :
    UploadFates e ops ({ object := o, info }, W) := by
  have hinit : Uploads ({ object := o, info } : Writer) W.store.log := by
    rw [hlog]
    exact .held rfl ⟨fun _ ⟨_, hx, _⟩ => (List.not_mem_nil hx).elim, fun _ => rfl⟩
  have hrun : Uploads (final e ops ({ object := o, info }, W)).1
      (final e ops ({ object := o, info }, W)).2.store.log := uploads_of_run hinit
  refine ⟨?_, ?_, ?_, ?_, fun t ht hc => (move_of_mem_turns ht).silent hc⟩
  · intro hc id hu
    cases hrun with
    | ended hc' => simp [hc] at hc'
    | held _ h =>
      have hcount := h.unended id
      rw [Exchange.countP_endsUpload] at hcount
      exact ⟨h.current id hu, by omega, by omega⟩
  · intro hc id hu hcut
    cases hrun with
    | held hc' => simp [hc] at hc'
    | ended _ h =>
      have hcount := h id hu
      rw [Exchange.countP_endsUpload] at hcount
      omega
  · intro id hu hcut
    cases hrun with
    | held _ h =>
      have hcount := h.unended id
      rw [Exchange.countP_endsUpload] at hcount
      omega
    | ended hc h =>
      have hcount := h id hu
      rw [Exchange.countP_endsUpload] at hcount
      exact ⟨hc, by omega, by omega⟩
  · intro t ht x hx id hcut
    exact (move_of_mem_turns ht).cut hx hcut

/-- A store in memory where the second part of an upload is interrupted. -/
def interruptedPart : Channel.Setting Store.MemoryStore Store.Stream where
  backend := Store.memoryBackend (.ofRules [⟨.uploadPart, some 2, .raise .interrupted⟩]) fun _ => {}
  limits := { minPartSize := 2 }

theorem upload_fates_of_interrupted_part :
    UploadFates interruptedPart [.write (some ⟨#[97, 98, 99]⟩), .close, .discard]
      ({ object := ⟨"bucket", "key"⟩, info := {} }, Store.emptyWorld) :=
  upload_fates interruptedPart _ _ _ _ rfl

/-- Closing is interrupted at the last part. The writer is closed then, with its upload neither
completed nor an abort of it attempted, and discarding it does nothing about that. -/
theorem interrupted_close_leaves_upload :
    let after := final interruptedPart [.write (some ⟨#[97, 98, 99]⟩), .close, .discard]
      ({ object := ⟨"bucket", "key"⟩, info := {} }, Store.emptyWorld)
    after.1.closed = true ∧
      after.2.store.log.any (Exchange.begins "upload-1") = true ∧
      after.2.store.log.countP (Exchange.completes "upload-1") = 0 ∧
      after.2.store.log.countP (Exchange.aborts "upload-1") = 0 ∧
      after.2.store.store.contents.uploads.entries.map (fun x => (x.1, x.2.completed, x.2.aborted)) =
        [("upload-1", false, false)] := by
  decide +kernel

end Writer

end ObjectChannel
