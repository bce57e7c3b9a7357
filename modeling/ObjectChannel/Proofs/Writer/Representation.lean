/-
What the fields of a writer hold between operations, whatever requests fail, as long as none is
interrupted. While the writer is open they agree with each other and with what the store took: the
parts are numbered from 1 on, and with the pending bytes, too few for a part, they are all of the
data. At the part limit nothing is pending, which is why closing sends no last part there. Once the
writer is closed, nothing is left in any of them.

What an open writer holds is read off its account (`Coherent.of_sent`). That a closed one holds
nothing is an invariant of its own, kept by every move (`Clean.move`): what closes the writer drops
the pending bytes, and a failure on the way drops the upload. `fields_agree` has both for every run.
-/
import ObjectChannel.Proofs.Writer.PartLimit

namespace ObjectChannel

variable {σ τ : Type}

/-! ## What the store took -/

namespace Exchange

/-- A part that the store took, with its answer. -/
def sentPart? : Exchange τ → Option SentPart
  | .call (.uploadPart _ _ _ block _ isLast) (.ok p) => some ⟨block, isLast, p⟩
  | _ => none

/-- A part is answered with the number that it was sent under, if it is taken. -/
def isNumbered : Exchange τ → Bool
  | .call (.uploadPart _ _ n ..) (.ok p) => p.number == n
  | _ => true

end Exchange

/-- The parts that the store took, in order. -/
def takenParts (log : List (Exchange τ)) : List SentPart := log.filterMap Exchange.sentPart?

theorem takenParts_append (log es : List (Exchange τ)) :
    takenParts (log ++ es) = takenParts log ++ takenParts es := List.filterMap_append

theorem takenParts_partCalls (o : ObjectId) (id : String) (sent : List SentPart) :
    takenParts (partCalls o id sent : List (Exchange τ)) = sent := by
  induction sent using List.reverseRecOn with
  | nil => rfl
  | append_singleton sent p ih =>
    rw [partCalls_concat, takenParts_append, ih]
    rfl

theorem takenParts_uploadCalls (o : ObjectId) (info : ObjectInfo) (u : MultipartUpload)
    (sent : List SentPart) : takenParts (uploadCalls o info u sent : List (Exchange τ)) = sent :=
  takenParts_partCalls o u.uploadId sent

/-- Answers with the right numbers number the parts. -/
theorem numbered_of_partCalls {o : ObjectId} {id : String} {sent : List SentPart}
    (h : ∀ x ∈ (partCalls o id sent : List (Exchange τ)), x.isNumbered = true) : Numbered sent := by
  intro i hi
  have hx := h _ (mem_partCalls.mpr ⟨i, hi, rfl⟩)
  simpa [Exchange.isNumbered] using hx

namespace Writer

/-! ## Closed writers -/

/-- No upload is in progress, and no part of one is kept. -/
structure Idle (w : Writer) : Prop where
  uploadId : w.uploadId = none
  parts : w.parts = []

/-- Nothing is left: no upload, and nothing pending. -/
structure Spent (w : Writer) : Prop extends Idle w where
  pending : w.pending.size = 0

/-- Parts are kept with their upload only, and nothing is kept once the writer is closed. -/
structure Clean (w : Writer) : Prop where
  parts : w.uploadId = none → w.parts = []
  spent : w.closed = true → Spent w

section

variable {limits : Limits} {w w' : Writer} {es : List (Exchange τ)}

theorem Clean.of_idle (h : Idle w) (hp : w.pending.size = 0) : Clean w :=
  ⟨fun _ => h.parts, fun _ => ⟨h, hp⟩⟩

/-- An open writer is clean as long as it has an upload. -/
theorem Clean.of_upload {id : String} (hid : w.uploadId = some id) (hc : w.closed = false) :
    Clean w := by
  refine ⟨fun h => ?_, fun h => ?_⟩
  · simp [hid] at h
  · simp [hc] at h

theorem AbortMove.idle {r : Except Failure Unit} (m : AbortMove w es r w')
    (hw : w.uploadId = .none → w.parts = []) : Idle w' := by
  cases m with
  | none hid => exact ⟨hid, hw hid⟩
  | attempt => exact ⟨rfl, rfl⟩

/-- The upload goes on with one more part, or it is dropped. -/
theorem PartMove.goes_on_or_idle {id : String} {block : Bytes} {isLast : Bool}
    {r : Except Failure Unit} (m : PartMove w id block isLast es r w')
    (ho : ∀ x ∈ es, x.isOrdinary) (hid : w.uploadId = some id) :
    (r = .ok () ∧ w'.uploadId = some id ∧ w'.closed = w.closed) ∨
      (∃ e, r = .error e) ∧ Idle w' := by
  cases m with
  | taken p => exact .inl ⟨rfl, hid, rfl⟩
  | refused he abort =>
    obtain rfl := abort.outcome fun x hx => ho x (.tail _ hx)
    refine .inr ⟨⟨_, rfl⟩, abort.idle fun hnone => ?_⟩
    simp [hid] at hnone
  | interrupted he => exact (Exchange.false_of_interrupt he ho).elim

/-- As for a part, but for an upload that is begun if there is none. -/
theorem UploadMove.goes_on_or_idle {block : Bytes} {isLast : Bool} {r : Except Failure Unit}
    (m : UploadMove w block isLast es r w') (ho : ∀ x ∈ es, x.isOrdinary)
    (hw : w.uploadId = none → w.parts = []) :
    (r = .ok () ∧ ∃ id, w'.uploadId = some id ∧ w'.closed = w.closed) ∨
      (∃ e, r = .error e) ∧ Idle w' := by
  cases m with
  | further hid part =>
    obtain ⟨hr, hafter⟩ | hdropped := part.goes_on_or_idle ho hid
    · exact .inl ⟨hr, _, hafter⟩
    · exact .inr hdropped
  | first hid u part =>
    obtain ⟨hr, hafter⟩ | hdropped := part.goes_on_or_idle (fun x hx => ho x (.tail _ hx)) rfl
    · exact .inl ⟨hr, _, hafter⟩
    · exact .inr hdropped
  | refused hid he => exact .inr ⟨⟨_, rfl⟩, hid, hw hid⟩
  | interrupted hid he => exact (Exchange.false_of_interrupt he ho).elim

theorem CompleteMove.idle {id : String} {r : Except Failure Unit} (m : CompleteMove w id es r w')
    (ho : ∀ x ∈ es, x.isOrdinary) (hw : w.uploadId = none → w.parts = []) : Idle w' := by
  cases m with
  | completed => exact ⟨rfl, rfl⟩
  | refused he abort => exact abort.idle hw
  | interrupted he => exact (Exchange.false_of_interrupt he ho).elim

/-- Publishing leaves no upload, whether it goes well or not. -/
theorem PublishMove.idle {r : Except Failure Unit} (m : PublishMove limits w es r w')
    (ho : ∀ x ∈ es, x.isOrdinary) (hw : w.uploadId = none → w.parts = []) : Idle w' := by
  cases m with
  | stored hid | notStored hid => exact ⟨hid, hw hid⟩
  | assembled hid hl complete => exact complete.idle ho hw
  | extended hid hl upload complete =>
    obtain ⟨-, id', hid', -⟩ | ⟨⟨e, he⟩, -⟩ :=
      upload.goes_on_or_idle (fun x hx => ho x (List.mem_append_left _ hx)) hw
    · refine complete.idle (fun x hx => ho x (List.mem_append_right _ hx)) fun hnone => ?_
      simp [hid'] at hnone
    · cases he
  | stopped hid hl upload =>
    obtain ⟨hr, -⟩ | ⟨-, hidle⟩ := upload.goes_on_or_idle ho hw
    · cases hr
    · exact hidle

/-- Every move leaves the writer clean. -/
theorem Clean.move {op : Operation} {r : Except Failure Answer} (h : Clean w)
    (m : Move limits w op es r w') (ho : ∀ x ∈ es, x.isOrdinary) : Clean w' := by
  cases m with
  | write m =>
    cases m with
    | closed | notBytes | nothing => exact h
    | held hc => exact ⟨h.parts, fun hc' => by simp [hc] at hc'⟩
    | full hc hd hf abort => exact .of_idle (abort.idle h.parts) (by rw [abort.pending_eq]; rfl)
    | sent hc hd hf hs upload =>
      -- the pending bytes are gone before the block is sent
      have hempty : w'.pending.size = 0 := by rw [upload.pending_eq]; rfl
      obtain ⟨-, id, hid, hopen⟩ | ⟨-, hidle⟩ := upload.goes_on_or_idle ho h.parts
      · exact .of_upload hid (hopen.trans hc)
      · exact .of_idle hidle hempty
  | close hop m =>
    cases m with
    | again => exact h
    | published hc publish =>
      have hidle := publish.idle ho h.parts
      exact .of_idle ⟨hidle.uploadId, hidle.parts⟩ rfl
  | discard hop m =>
    cases m with
    | again => exact h
    | dropped hc abort => exact .of_idle (abort.idle h.parts) (by rw [abort.pending_eq]; rfl)
  | other =>
    refine ⟨h.parts, fun hc => ?_⟩
    have hspent := h.spent hc
    exact ⟨⟨hspent.uploadId, hspent.parts⟩, hspent.pending⟩

end

theorem Clean.initial (o : ObjectId) (info : ObjectInfo) : Clean { object := o, info } :=
  .of_idle ⟨rfl, rfl⟩ rfl

variable {e : Channel.Setting σ τ} {s : Writer × World (Recorded σ τ)}

/-- Every run leaves the writer clean. -/
theorem clean_of_run {ops : List Operation}
    (ho : ∀ x ∈ (final e ops s).2.store.log, x.isOrdinary) (h : Clean s.1) :
    Clean (final e ops s).1 := by
  induction ops generalizing s with
  | nil => exact h
  | cons op ops ih =>
    have ht : _ ∈ turns e (op :: ops) s := List.mem_cons_self
    exact ih ho (h.move (move_of_mem_turns ht) fun x hx => ho x ((serves e.recorded).mem_log ht hx))

/-! ## Open writers -/

/-- How the fields of an open writer agree with each other, with what passed, and with the data that
were accepted. -/
structure Coherent (limits : Limits) (w : Writer) (log : List (Exchange τ)) (data : Bytes) :
    Prop where
  /-- Too few bytes are pending for a part. -/
  pending_lt : w.pending.size < limits.minPartSize
  /-- An upload is in progress if it has a part, and only then. -/
  parts_eq_nil_iff : w.parts = [] ↔ w.uploadId = none
  number_eq : ∀ i (h : i < w.parts.length), w.parts[i].number = (i + 1 : Nat)
  length_le : w.parts.length ≤ limits.maxParts
  /-- At the part limit the upload is complete as it stands. -/
  full : w.parts.length = limits.maxParts → w.pending.size = 0
  /-- The parts are the store's answers for those that it took. -/
  taken : w.parts = (takenParts log).map (·.part)
  /-- It took them all for the upload in progress. -/
  own : ∀ x ∈ log, x.isPartTaken = true → ∃ id, w.uploadId = some id ∧ x.isPartOf id = true
  /-- Their blocks, and then the pending bytes, are the data. -/
  data_eq : sentBytes (takenParts log) ++ w.pending.toBytes = data

section

variable {limits : Limits} {w : Writer} {log : List (Exchange τ)} {sent : List SentPart}

theorem Sent.takenParts_eq (h : Sent w log sent) : takenParts log = sent := by
  cases h with
  | nothing => rfl
  | upload => exact takenParts_uploadCalls _ _ _ _

theorem Sent.parts_eq (h : Sent w log sent) : w.parts = sent.map (·.part) := by
  cases h with
  | nothing hid hp => exact hp
  | upload hid hp => exact hp

theorem Sent.parts_eq_nil_iff (h : Sent w log sent) : w.parts = [] ↔ w.uploadId = none := by
  cases h with
  | nothing hid hp => simp [hid, hp]
  | upload hid hp hs => simp [hid, hp, hs]

theorem Sent.numbered (h : Sent w log sent) (hn : ∀ x ∈ log, x.isNumbered = true) :
    Numbered sent := by
  cases h with
  | nothing => exact fun i hi => absurd hi (Nat.not_lt_zero i)
  | upload => exact numbered_of_partCalls fun x hx => hn x (.tail _ hx)

/-- Whatever the store took went to the upload in progress. -/
theorem Sent.own (h : Sent w log sent) {x : Exchange τ} (hx : x ∈ log)
    (ht : x.isPartTaken = true) : ∃ id, w.uploadId = some id ∧ x.isPartOf id = true := by
  cases h with
  | nothing => cases hx
  | upload hid hp hs =>
    rcases List.mem_cons.mp hx with rfl | hx
    · cases ht
    · obtain ⟨i, hi, rfl⟩ := mem_partCalls.mp hx
      exact ⟨_, hid, by simp [Exchange.isPartOf]⟩

/-- The fields agree where the account is underway and the answers have the right numbers. -/
theorem Coherent.of_sent (h : Sent w log sent) (parts : Underway limits w.pending sent)
    (hm : 0 < limits.minPartSize) (hM : 0 < limits.maxParts)
    (hn : ∀ x ∈ log, x.isNumbered = true) :
    Coherent limits w log (sentBytes sent ++ w.pending.toBytes) := by
  have hlength : w.parts.length = sent.length := by rw [h.parts_eq, List.length_map]
  refine ⟨?pending_lt, h.parts_eq_nil_iff, ?number_eq, ?length_le, ?full, ?taken, ?own, ?data_eq⟩
  case pending_lt =>
    obtain hzero | hsmall := parts.small
    · omega
    · exact hsmall
  case number_eq =>
    intro i hi
    have hi' : i < sent.length := hlength ▸ hi
    simp only [h.parts_eq, List.getElem_map]
    exact h.numbered hn i hi'
  case length_le =>
    have hfew := parts.few
    omega
  case full =>
    intro hfull
    -- the account has this for an upload that was begun, which as many parts as there may be show
    have hne : sent ≠ [] := by
      rintro rfl
      simp only [hlength, List.length_nil] at hfull
      omega
    exact parts.full hne (by omega)
  case taken => rw [h.takenParts_eq, h.parts_eq]
  case own => exact fun x hx ht => h.own hx ht
  case data_eq => rw [h.takenParts_eq]

end

/-! ## Every state that a writer reaches -/

/-- **The fields of a writer agree in every state that it reaches**, whatever operations are
performed and whatever requests fail, unless they are interrupted. -/
theorem fields_agree (e : Channel.Setting σ τ) (o : ObjectId) (info : ObjectInfo)
    (ops : List Operation) (W : World (Recorded σ τ)) (hm : 1 ≤ e.limits.minPartSize)
    (hM : 1 ≤ e.limits.maxParts) (hlog : W.store.log = [])
    (ho : ∀ x ∈ (final e ops ({ object := o, info }, W)).2.store.log, x.isOrdinary = true)
    (hn : ∀ x ∈ (final e ops ({ object := o, info }, W)).2.store.log, x.isNumbered = true) :
    let after := final e ops ({ object := o, info }, W)
    (after.1.closed = false → Coherent e.limits after.1 after.2.store.log
        (acceptedIn (turns e ops ({ object := o, info }, W)))) ∧
      (after.1.closed = true → Spent after.1) := by
  intro after
  have hinit : Account e.limits { object := o, info } W.store.log .empty false := by
    rw [hlog]
    exact .initial _ _ _
  have haccount := account_of_run ho hinit
  rw [ByteArray.empty_append] at haccount
  refine ⟨fun hopen => ?_, (clean_of_run ho (.initial o info)).spent⟩
  obtain ⟨sent, hs, parts, hdata⟩ := haccount.underway_of_open hopen
  rw [hdata]
  exact .of_sent hs parts hm hM hn

/-- Writes up to the part limit, with something in between and at the end that is not bytes. -/
def writesToLimit : List Operation :=
  [.write (some ⟨#[1]⟩), .write none, .write (some ⟨#[2, 3]⟩), .write (some ⟨#[4, 5]⟩),
    .write (some ⟨#[6, 7]⟩), .write none]

/-- At the part limit; and closed, after the upload could neither be completed nor aborted. -/
theorem fields_agree_of_stuck_upload :
    ((final stuckUploads writesToLimit
          ({ object := ⟨"bucket", "key"⟩, info := {} }, Store.emptyWorld)).1.parts.length = 3 ∧
      Coherent stuckUploads.limits
        (final stuckUploads writesToLimit
          ({ object := ⟨"bucket", "key"⟩, info := {} }, Store.emptyWorld)).1
        (final stuckUploads writesToLimit
          ({ object := ⟨"bucket", "key"⟩, info := {} }, Store.emptyWorld)).2.store.log
        (acceptedIn (turns stuckUploads writesToLimit
          ({ object := ⟨"bucket", "key"⟩, info := {} }, Store.emptyWorld)))) ∧
      Spent (final stuckUploads (writesToLimit ++ [.close])
        ({ object := ⟨"bucket", "key"⟩, info := {} }, Store.emptyWorld)).1 := by
  have hopen := (fields_agree stuckUploads ⟨"bucket", "key"⟩ {} writesToLimit Store.emptyWorld
    (by decide) (by decide) rfl (by decide +kernel) (by decide +kernel)).1
  have hclosed := (fields_agree stuckUploads ⟨"bucket", "key"⟩ {} (writesToLimit ++ [.close])
    Store.emptyWorld (by decide) (by decide) rfl (by decide +kernel) (by decide +kernel)).2
  exact ⟨⟨by decide +kernel, hopen (by decide +kernel)⟩, hclosed (by decide +kernel)⟩

end Writer

end ObjectChannel
