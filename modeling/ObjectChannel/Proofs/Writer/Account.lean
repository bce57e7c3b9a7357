/-
What a writer has asked of the store so far, told from the data that it took: the account of a run
without interrupts.

While the writer is open, the parts that the store took and the pending bytes are the accepted data.
Once it is closed there is one way in which it ended. Every move keeps the account
(`Account.move`), and so does every run of operations (`account_of_run`).
-/
import ObjectChannel.Proofs.Writer.Move

namespace ObjectChannel

/-- A part that the store has taken: the block that was sent, and the answer. -/
structure SentPart where
  block : Bytes
  isLast : Bool
  part : CompletedPart

/-- The requests that sent the parts of an upload, numbered from 1 on. -/
def partCalls {τ : Type} (o : ObjectId) (id : String) (sent : List SentPart) :
    List (Exchange τ) :=
  sent.mapIdx fun i p =>
    .call (.uploadPart o id (i + 1) p.block p.block.size p.isLast) (.ok p.part)

/-- The requests of an upload, up to its last part. -/
def uploadCalls {τ : Type} (o : ObjectId) (info : ObjectInfo) (u : MultipartUpload)
    (sent : List SentPart) : List (Exchange τ) :=
  .call (.beginUpload o info) (.ok u) :: partCalls o u.uploadId sent

/-- The bytes that were sent. -/
def sentBytes (sent : List SentPart) : Bytes := .concat (sent.map (·.block))

@[simp] theorem partCalls_nil {τ : Type} (o : ObjectId) (id : String) :
    (partCalls o id [] : List (Exchange τ)) = [] := rfl

theorem partCalls_concat {τ : Type} (o : ObjectId) (id : String) (sent : List SentPart)
    (p : SentPart) :
    (partCalls o id (sent ++ [p]) : List (Exchange τ)) = partCalls o id sent ++
      [.call (.uploadPart o id (sent.length + 1) p.block p.block.size p.isLast)
        (.ok p.part)] := by
  simp [partCalls, List.mapIdx_append]

theorem uploadCalls_concat {τ : Type} (o : ObjectId) (info : ObjectInfo) (u : MultipartUpload)
    (sent : List SentPart) (p : SentPart) :
    (uploadCalls o info u (sent ++ [p]) : List (Exchange τ)) = uploadCalls o info u sent ++
      [.call (.uploadPart o u.uploadId (sent.length + 1) p.block p.block.size p.isLast)
        (.ok p.part)] := by
  simp [uploadCalls, partCalls_concat]

@[simp] theorem sentBytes_nil : sentBytes [] = .empty := rfl

@[simp] theorem sentBytes_concat (sent : List SentPart) (p : SentPart) :
    sentBytes (sent ++ [p]) = sentBytes sent ++ p.block := by
  simp [sentBytes, Bytes.concat]

namespace Writer

variable {σ τ : Type}

/-! ## Accounts -/

/-- What an open writer has asked for: nothing, or an upload with some parts. -/
inductive Sent (w : Writer) : List (Exchange τ) → List SentPart → Prop where
  | nothing (hid : w.uploadId = none) (hp : w.parts = []) : Sent w [] []
  | upload {u sent} (hid : w.uploadId = some u.uploadId) (hp : w.parts = sent.map (·.part))
    (hs : sent ≠ []) : Sent w (uploadCalls w.object w.info u sent) sent

/-- The parts that writes have sent, and what is pending besides. At the part limit nothing is. -/
structure Underway (limits : Limits) (pending : Pending) (sent : List SentPart) : Prop where
  large : ∀ p ∈ sent, limits.minPartSize ≤ p.block.size ∧ p.isLast = false
  few : (sent.length : Int) ≤ max 1 limits.maxParts
  small : pending.size = 0 ∨ pending.size < limits.minPartSize
  full : sent ≠ [] → limits.maxParts ≤ sent.length → pending.size = 0

/-- The part that closing adds to those that were sent: what is pending, unless there are as many
parts as there may be. -/
inductive LastPart (limits : Limits) (pending : Pending) (sent : List SentPart) :
    List SentPart → Prop where
  | none (h : limits.maxParts ≤ sent.length) : LastPart limits pending sent []
  | one {p : SentPart} (h : (sent.length : Int) < limits.maxParts) (hp : p.isLast = true)
    (hb : p.block = pending.toBytes) : LastPart limits pending sent [p]

/-- With its last part an upload has all of the data. -/
theorem LastPart.sentBytes_append {limits : Limits} {pending : Pending} {sent last : List SentPart}
    (h : LastPart limits pending sent last) (parts : Underway limits pending sent)
    (hs : sent ≠ []) : sentBytes (sent ++ last) = sentBytes sent ++ pending.toBytes := by
  cases h with
  | none hl => simp [Pending.toBytes_of_size_eq_zero (parts.full hs hl)]
  | one hl hp hb => rw [sentBytes_concat, hb]

/-- All that a writer has asked for once closing it has published the data. -/
inductive Published (limits : Limits) (o : ObjectId) (info : ObjectInfo) (pending : Pending) :
    List SentPart → List (Exchange τ) → Prop where
  | stored (x : PutResult) :
    Published limits o info pending []
      [.call (.put o pending.toBytes pending.toBytes.size info) (.ok x)]
  | completed {u : MultipartUpload} {sent last : List SentPart} (hs : sent ≠ [])
    (hl : LastPart limits pending sent last) :
    Published limits o info pending sent
      (uploadCalls o info u (sent ++ last) ++
        [.call (.completeUpload o u.uploadId ((sent ++ last).map (·.part))) (.ok ())])

/-- The request that stopped an upload, if one did. -/
inductive Stopped (o : ObjectId) (id : String) : List (Exchange τ) → Prop where
  | nothing : Stopped o id []
  | part (n : Nat) (block : Bytes) (length : Nat) (isLast : Bool) (e : Failure) :
    Stopped o id [.call (.uploadPart o id n block length isLast) (.error e)]
  | complete (parts : List CompletedPart) (e : Failure) :
    Stopped o id [.call (.completeUpload o id parts) (.error e)]

/-- The ways in which a writer ends: all that it asked for, the data if they were published, and
whether they were. -/
inductive Ended (limits : Limits) (o : ObjectId) (info : ObjectInfo) :
    List (Exchange τ) → Bytes → Bool → Prop where
  | unused (data : Bytes) : Ended limits o info [] data false
  | notStored (body : Bytes) (e : Failure) (data : Bytes) :
    Ended limits o info [.call (.put o body body.size info) (.error e)] data false
  | notBegun (e : Failure) (data : Bytes) :
    Ended limits o info [.call (.beginUpload o info) (.error e)] data false
  | aborted (u : MultipartUpload) (sent : List SentPart) {stop : List (Exchange τ)}
    (hs : Stopped o u.uploadId stop) (x : Except Failure Unit) (data : Bytes) :
    Ended limits o info
      (uploadCalls o info u sent ++ stop ++ [.call (.abortUpload o u.uploadId) x]) data false
  | published {pending : Pending} {sent : List SentPart} {log : List (Exchange τ)}
    (parts : Underway limits pending sent) (h : Published limits o info pending sent log) :
    Ended limits o info log (sentBytes sent ++ pending.toBytes) true

/-- What a writer has asked for, the data that it accepted, and whether they are published. -/
inductive Account (limits : Limits) (w : Writer) : List (Exchange τ) → Bytes → Bool → Prop where
  | underway {es sent} (hc : w.closed = false) (hs : Sent w es sent)
    (parts : Underway limits w.pending sent) :
    Account limits w es (sentBytes sent ++ w.pending.toBytes) false
  | closed {es data published} (hc : w.closed = true)
    (ended : Ended limits w.object w.info es data published) : Account limits w es data published

theorem Account.underway_of_open {limits : Limits} {w : Writer} {log : List (Exchange τ)}
    {data : Bytes} {published : Bool} (h : Account limits w log data published)
    (hc : w.closed = false) :
    ∃ sent, Sent w log sent ∧ Underway limits w.pending sent ∧
      data = sentBytes sent ++ w.pending.toBytes := by
  cases h with
  | underway _ hs parts => exact ⟨_, hs, parts, rfl⟩
  | closed hc' => simp [hc] at hc'

/-- The data that an operation with this outcome has accepted. -/
def acceptedBy : Operation → Except Failure Answer → Bytes
  | .write (some data), .ok _ => data
  | _, _ => .empty

/-- The operation with this outcome has published the object. -/
def publishes (w : Writer) (op : Operation) (r : Except Failure Answer) : Bool :=
  op.closes && !w.closed && r.isOk

/-! ## Every move keeps the account -/

section

variable {limits : Limits} {w w' : Writer} {log es : List (Exchange τ)} {sent : List SentPart}
  {data : Bytes} {published : Bool}

/-- Without an upload an abort does nothing. -/
theorem AbortMove.of_none {r : Except Failure Unit} (hid : w.uploadId = .none)
    (h : AbortMove w es r w') : es = [] ∧ r = .ok () ∧ w' = w := by
  cases h with
  | none => exact ⟨rfl, rfl, rfl⟩
  | attempt hid' => simp [hid] at hid'

/-- An abort does not fail. -/
theorem AbortMove.outcome {r : Except Failure Unit} (h : AbortMove w es r w')
    (ho : ∀ x ∈ es, x.isOrdinary) : r = .ok () := by
  cases h with
  | none => rfl
  | attempt hid x =>
    cases x with
    | ok _ => rfl
    | error e =>
      have he := Exchange.isInterrupt_of_isOrdinary (ho _ (.head _))
      simp [afterAbort, he]

/-- With an upload it is one request, and the writer has none afterwards. -/
theorem AbortMove.of_upload {id : String} {r : Except Failure Unit} (hid : w.uploadId = some id)
    (h : AbortMove w es r w') (ho : ∀ x ∈ es, x.isOrdinary) :
    (∃ x, es = [.call (.abortUpload w.object id) x]) ∧ r = .ok () ∧
      w' = { w with uploadId := .none, parts := [] } := by
  have hr := h.outcome ho
  cases h with
  | none hid' => simp [hid] at hid'
  | attempt hid' x =>
    obtain rfl : id = _ := by simpa [hid] using hid'
    exact ⟨⟨x, rfl⟩, hr, rfl⟩

/-- An abort ends the account of a writer that is then closed. -/
theorem Sent.abort {r : Except Failure Unit} (hs : Sent w log sent) (h : AbortMove w es r w')
    (ho : ∀ x ∈ es, x.isOrdinary) (data : Bytes) :
    r = .ok () ∧ w'.closed = w.closed ∧ Ended limits w'.object w'.info (log ++ es) data false := by
  cases hs with
  | nothing hid =>
    obtain ⟨rfl, rfl, rfl⟩ := h.of_none hid
    exact ⟨rfl, rfl, .unused data⟩
  | @upload u _ hid =>
    obtain ⟨⟨x, rfl⟩, rfl, rfl⟩ := h.of_upload hid ho
    exact ⟨rfl, rfl, by simpa using Ended.aborted (τ := τ) u sent .nothing x data⟩

/-- A block is taken as the next part, or the account ends. -/
theorem PartMove.account (limits : Limits) (sent : List SentPart) {u : MultipartUpload}
    {block : Bytes} {isLast : Bool} {r : Except Failure Unit}
    (h : PartMove w u.uploadId block isLast es r w')
    (ho : ∀ x ∈ es, x.isOrdinary) (hid : w.uploadId = some u.uploadId)
    (hp : w.parts = sent.map (·.part)) :
    (∃ p, p.block = block ∧ p.isLast = isLast ∧ r = .ok () ∧
      w' = { w with parts := (sent ++ [p]).map (·.part) } ∧
      uploadCalls w.object w.info u sent ++ es = uploadCalls w.object w.info u (sent ++ [p])) ∨
    (∃ e, r = .error e) ∧ w'.closed = true ∧
      ∀ data, Ended limits w'.object w'.info (uploadCalls w.object w.info u sent ++ es) data false := by
  cases h with
  | taken p =>
    refine .inl ⟨⟨block, isLast, p⟩, rfl, rfl, rfl, by simp [hp], ?_⟩
    simp [uploadCalls_concat, partRequest, hp]
  | refused he abort =>
    have hid' : ({ w with closed := true } : Writer).uploadId = some u.uploadId := hid
    obtain ⟨⟨x, rfl⟩, rfl, rfl⟩ := abort.of_upload hid' fun y hy => ho y (.tail _ hy)
    refine .inr ⟨⟨_, rfl⟩, rfl, fun data => ?_⟩
    simpa [partRequest] using
      Ended.aborted u sent (.part (w.parts.length + 1) block block.size isLast _) x data
  | interrupted he =>
    exact (Exchange.false_of_interrupt he ho).elim

/-- A block is taken as a part of an upload, begun if there is none, or the account ends. -/
theorem UploadMove.account (limits : Limits) {block : Bytes} {isLast : Bool}
    {r : Except Failure Unit} (h : UploadMove w block isLast es r w')
    (ho : ∀ x ∈ es, x.isOrdinary) (hs : Sent w log sent) :
    (∃ u p, p.block = block ∧ p.isLast = isLast ∧ r = .ok () ∧
      w' = { w with uploadId := some u.uploadId, parts := (sent ++ [p]).map (·.part) } ∧
      log ++ es = uploadCalls w.object w.info u (sent ++ [p])) ∨
    (∃ e, r = .error e) ∧ w'.closed = true ∧
      ∀ data, Ended limits w'.object w'.info (log ++ es) data false := by
  cases h with
  | further hid part =>
    cases hs with
    | nothing hid' => simp [hid] at hid'
    | @upload u _ hid' hp =>
      obtain rfl : u.uploadId = _ := by simpa [hid] using hid'.symm
      obtain ⟨p, hb, hl, hr, rfl, hes⟩ | h := part.account limits sent ho hid hp
      · exact .inl ⟨u, p, hb, hl, hr, by rw [hid], hes⟩
      · exact .inr h
  | @first es' r' w' hid u part =>
    cases hs with
    | upload hid' => simp [hid] at hid'
    | nothing _ hp =>
      have := part.account limits [] (fun y hy => ho y (.tail _ hy)) rfl rfl
      obtain ⟨p, hb, hl, hr, rfl, hes⟩ | h := this
      · exact .inl ⟨u, p, hb, hl, hr, rfl, hes⟩
      · exact .inr h
  | refused hid he =>
    cases hs with
    | upload hid' => simp [hid] at hid'
    | nothing => exact .inr ⟨⟨_, rfl⟩, rfl, fun data => .notBegun _ data⟩
  | interrupted _ he =>
    exact (Exchange.false_of_interrupt he ho).elim

/-- The parts are assembled, or the account ends without that. -/
theorem CompleteMove.account (limits : Limits) (sent : List SentPart) {u : MultipartUpload}
    {r : Except Failure Unit}
    (h : CompleteMove w u.uploadId es r w') (ho : ∀ x ∈ es, x.isOrdinary)
    (hid : w.uploadId = some u.uploadId) (hp : w.parts = sent.map (·.part)) :
    (r = .ok () ∧ w'.object = w.object ∧ w'.info = w.info ∧
      es = [.call (.completeUpload w.object u.uploadId (sent.map (·.part))) (.ok ())]) ∨
    (∃ e, r = .error e) ∧ ∀ data,
      Ended limits w'.object w'.info (uploadCalls w.object w.info u sent ++ es) data false := by
  cases h with
  | completed => exact .inl ⟨rfl, rfl, rfl, by rw [hp]⟩
  | refused he abort =>
    obtain ⟨⟨x, rfl⟩, rfl, rfl⟩ := abort.of_upload hid fun y hy => ho y (.tail _ hy)
    refine .inr ⟨⟨_, rfl⟩, fun data => ?_⟩
    simpa using Ended.aborted u sent (.complete w.parts _) x data
  | interrupted he =>
    exact (Exchange.false_of_interrupt he ho).elim

/-- Publishing ends the account, and publishes the data if it goes well. -/
theorem PublishMove.account {r : Except Failure Unit} (h : PublishMove limits w es r w')
    (ho : ∀ x ∈ es, x.isOrdinary) (hs : Sent w log sent) :
    (r = .ok () ∧ Published limits w'.object w'.info w.pending sent (log ++ es)) ∨
    (∃ e, r = .error e) ∧ ∀ data, Ended limits w'.object w'.info (log ++ es) data false := by
  cases h with
  | stored hid x =>
    cases hs with
    | upload hid' => simp [hid] at hid'
    | nothing => exact .inl ⟨rfl, .stored x⟩
  | notStored hid e =>
    cases hs with
    | upload hid' => simp [hid] at hid'
    | nothing => exact .inr ⟨⟨_, rfl⟩, .notStored _ _⟩
  | assembled hid hl complete =>
    cases hs with
    | nothing hid' => simp [hid] at hid'
    | @upload u _ hid' hp hne =>
      obtain rfl : u.uploadId = _ := by simpa [hid] using hid'.symm
      have hl : limits.maxParts ≤ sent.length := by simpa [hp] using hl
      obtain ⟨rfl, hob, hinfo, rfl⟩ | ⟨he, hend⟩ := complete.account limits sent ho hid hp
      · have hpub : Published (τ := τ) limits w.object w.info w.pending sent _ :=
          .completed (u := u) hne (.none hl)
        rw [List.append_nil] at hpub
        exact .inl ⟨rfl, by rw [hob, hinfo]; exact hpub⟩
      · exact .inr ⟨he, hend⟩
  | @extended id es₁ w₁ es₂ _ _ hid hl upload complete =>
    have ho₁ : ∀ x ∈ es₁, x.isOrdinary := fun x hx => ho x (List.mem_append_left _ hx)
    have ho₂ : ∀ x ∈ es₂, x.isOrdinary := fun x hx => ho x (List.mem_append_right _ hx)
    cases hs with
    | nothing hid' => simp [hid] at hid'
    | @upload u _ hid' hp hne =>
      have hl : (sent.length : Int) < limits.maxParts := by simpa [hp] using hl
      cases upload with
      | first hid' => simp [hid] at hid'
      | further hid₁ part =>
        obtain rfl : u.uploadId = _ := by simpa [hid₁] using hid'.symm
        obtain rfl : u.uploadId = _ := by simpa [hid] using hid'.symm
        obtain ⟨p, hb, hlast, -, rfl, hes⟩ | ⟨⟨e, he⟩, -⟩ := part.account limits sent ho₁ hid hp
        · have hcomplete := complete.account limits (sent ++ [p]) ho₂ hid rfl
          rw [← List.append_assoc, hes]
          obtain ⟨rfl, hob, hinfo, rfl⟩ | ⟨he, hend⟩ := hcomplete
          · exact .inl ⟨rfl, by rw [hob, hinfo]; exact .completed hne (.one hl hlast hb)⟩
          · exact .inr ⟨he, hend⟩
        · cases he
  | stopped hid hl upload =>
    obtain ⟨u, p, -, -, hr, -⟩ | ⟨he, -, hend⟩ := upload.account limits ho hs
    · cases hr
    · exact .inr ⟨he, hend⟩

/-- What was sent is told by the upload alone. -/
theorem Sent.congr (hs : Sent w log sent) (hid : w'.uploadId = w.uploadId)
    (hp : w'.parts = w.parts) (ho : w'.object = w.object) (hi : w'.info = w.info) :
    Sent w' log sent := by
  cases hs with
  | nothing hid' hp' => exact .nothing (hid.trans hid') (hp.trans hp')
  | upload hid' hp' hs =>
    rw [← ho, ← hi]
    exact .upload (hid.trans hid') (hp.trans hp') hs

theorem Sent.calls (hs : Sent w log sent) (hne : sent ≠ []) :
    ∃ u, log = uploadCalls w.object w.info u sent := by
  cases hs with
  | nothing => exact absurd rfl hne
  | upload => exact ⟨_, rfl⟩

theorem Sent.isFull_iff (limits : Limits) (hs : Sent w log sent) :
    w.isFull limits = true ↔ sent ≠ [] ∧ limits.maxParts ≤ sent.length := by
  cases hs with
  | nothing hid => simp [isFull, hid]
  | upload hid hp hs => simp [isFull, hid, hp, hs]

theorem Account.write {d : Option Bytes} {r : Except Failure Nat}
    (h : Account limits w log data published) (m : WriteMove limits w d es r w')
    (ho : ∀ x ∈ es, x.isOrdinary) :
    Account limits w' (log ++ es) (data ++ acceptedBy (.write d) (do return .count (← r)))
      published := by
  cases m with
  | closed | notBytes => simpa [acceptedBy, Bind.bind, Except.bind] using h
  | @nothing d _ hd =>
    obtain rfl : d = .empty := ByteArray.size_eq_zero_iff.mp hd
    simpa [acceptedBy, Bind.bind, Except.bind, Pure.pure, Except.pure] using h
  | full hc hd hf abort =>
    cases h with
    | closed hc' => simp [hc] at hc'
    | @underway sent _ hs parts =>
      have hs' : Sent { w with closed := true, pending := .empty } log sent :=
        hs.congr rfl rfl rfl rfl
      obtain ⟨rfl, hc', hend⟩ := hs'.abort abort ho _
      exact .closed hc' hend
  | @sent d es r w' hc hd hf hlarge upload =>
    cases h with
    | closed hc' => simp [hc] at hc'
    | @underway sent _ hs parts =>
      have hfull := hs.isFull_iff limits
      have hs' : Sent { w with pending := .empty } log sent := hs.congr rfl rfl rfl rfl
      obtain ⟨u, p, hb, hl, rfl, rfl, hes⟩ | ⟨⟨e, rfl⟩, hc', hend⟩ := upload.account limits ho hs'
      · rw [hes]
        have hdata : sentBytes sent ++ w.pending.toBytes ++ d =
            sentBytes (sent ++ [p]) ++ Pending.empty.toBytes := by
          simp [hb, ByteArray.append_assoc]
        simp only [acceptedBy, Bind.bind, Except.bind, Pure.pure, Except.pure, hdata]
        refine .underway hc (.upload rfl rfl (by simp)) ⟨?_, ?_, .inl rfl, fun _ _ => rfl⟩
        · intro q hq
          rcases List.mem_append.mp hq with hq | hq
          · exact parts.large q hq
          · obtain rfl := List.mem_singleton.mp hq
            rw [hb, Pending.size_toBytes]
            exact ⟨hlarge, hl⟩
        · rw [hf] at hfull
          by_cases hne : sent = []
          · subst hne
            exact Int.le_max_left 1 _
          · have hroom : ¬limits.maxParts ≤ sent.length := fun hl =>
              Bool.false_ne_true (hfull.mpr ⟨hne, hl⟩)
            rw [List.length_append, List.length_singleton]
            omega
      · exact .closed hc' (hend _)
  | @held d hc hd hf hsmall =>
    cases h with
    | closed hc' => simp [hc] at hc'
    | @underway sent _ hs parts =>
      have hfull := hs.isFull_iff limits
      rw [hf] at hfull
      simp only [acceptedBy, Bind.bind, Except.bind, Pure.pure, Except.pure, List.append_nil,
        ByteArray.append_assoc, ← Pending.toBytes_append]
      refine .underway hc (hs.congr rfl rfl rfl rfl) ⟨parts.large, parts.few, .inr hsmall, ?_⟩
      intro hne hl
      simp [hne, hl] at hfull

theorem Account.close {r : Except Failure Unit} (h : Account limits w log data published)
    (m : CloseMove limits w es r w') (ho : ∀ x ∈ es, x.isOrdinary) :
    Account limits w' (log ++ es) data (published || (!w.closed && r.isOk)) := by
  cases m with
  | again hc => simpa [hc] using h
  | published hc publish =>
    cases h with
    | closed hc' => simp [hc] at hc'
    | underway _ hs parts =>
      rw [hc]
      obtain ⟨rfl, hpub⟩ | ⟨⟨e, rfl⟩, hend⟩ := publish.account ho hs
      · exact .closed rfl (.published parts hpub)
      · exact .closed rfl (hend _)

theorem Account.discard {r : Except Failure Unit} (h : Account limits w log data published)
    (m : DiscardMove w es r w') (ho : ∀ x ∈ es, x.isOrdinary) :
    Account limits w' (log ++ es) data published := by
  cases m with
  | again hc => simpa using h
  | dropped hc abort =>
    cases h with
    | closed hc' => simp [hc] at hc'
    | @underway sent _ hs parts =>
      have hs' : Sent { w with closed := true, pending := .empty } log sent :=
        hs.congr rfl rfl rfl rfl
      obtain ⟨rfl, hc', hend⟩ := hs'.abort abort ho _
      exact .closed hc' hend

theorem Account.noted (h : Account limits w log data published) (p : Option Int) :
    Account limits { w with notedPosition := p } log data published := by
  cases h with
  | underway hc hs parts => exact .underway hc (hs.congr rfl rfl rfl rfl) parts
  | closed hc hend => exact .closed hc hend

/-- Every move keeps the account. -/
theorem Account.move {op : Operation} {r : Except Failure Answer}
    (h : Account limits w log data published) (m : Move limits w op es r w')
    (ho : ∀ x ∈ es, x.isOrdinary) :
    Account limits w' (log ++ es) (data ++ acceptedBy op r) (published || publishes w op r) := by
  cases m with
  | write m => simpa [publishes, Operation.closes] using h.write m ho
  | @close op es r w' hop m =>
    have ha : acceptedBy op (do r; return .none) = .empty := by
      cases op <;> simp_all [Operation.closes, acceptedBy]
    have hr : publishes w op (do r; return .none) = (!w.closed && r.isOk) := by
      rw [publishes, hop]
      cases r <;> rfl
    rw [ha, hr, ByteArray.append_empty]
    exact h.close m ho
  | @discard op es r w' hop m =>
    have ha : acceptedBy op (do r; return .none) = .empty := by rcases hop with rfl | rfl <;> rfl
    have hp : op.closes = false := by rcases hop with rfl | rfl <;> rfl
    rw [ha]
    simpa [publishes, hp] using h.discard m ho
  | other hop hw =>
    have ha : acceptedBy op r = .empty := by
      cases op <;> simp_all [acceptedBy]
    rw [ha]
    simpa [publishes, hop] using h.noted _

end

/-! ## Every run keeps the account -/

/-- The turns of a writer, over a store with a record. -/
abbrev turns (e : Channel.Setting σ τ) (ops : List Operation)
    (s : Writer × World (Recorded σ τ)) : List (Turn Writer (Recorded σ τ)) :=
  ChannelAction.turns (Channel.performWriter e.recorded) ops s

/-- What a run of a writer leaves. -/
abbrev final (e : Channel.Setting σ τ) (ops : List Operation)
    (s : Writer × World (Recorded σ τ)) : Writer × World (Recorded σ τ) :=
  ChannelAction.final (Channel.performWriter e.recorded) ops s

variable {e : Channel.Setting σ τ} {ops : List Operation} {s : Writer × World (Recorded σ τ)}

/-- A turn is a move, with all that passed in it. -/
theorem move_of_mem_turns {t : Turn Writer (Recorded σ τ)} (ht : t ∈ turns e ops s) :
    Move e.limits t.before.1 t.operation t.exchanges t.outcome t.after.1 := by
  obtain ⟨ops₁, ops₂, -, -, hp⟩ := ChannelAction.of_mem_turns _ ht
  obtain ⟨es, hm, hr⟩ := Writer.move e.recorded t.operation t.before
  rw [hp] at hm hr
  have hlog : t.after.2.store.log = t.before.2.store.log ++ es := hr.of_recorded.2
  rw [(serves e.recorded).log_after ht] at hlog
  rw [List.append_cancel_left hlog]
  exact hm

/-- The data that were accepted in some turns. -/
def acceptedIn (ts : List (Turn Writer σ)) : Bytes :=
  .concat (ts.map fun t => acceptedBy t.operation t.outcome)

/-- One of the turns published the object. -/
def publishedIn (ts : List (Turn Writer σ)) : Bool :=
  ts.any fun t => publishes t.before.1 t.operation t.outcome

theorem acceptedIn_cons (t : Turn Writer σ) (ts : List (Turn Writer σ)) :
    acceptedIn (t :: ts) = acceptedBy t.operation t.outcome ++ acceptedIn ts := by
  apply Bytes.ext_toList
  simp [acceptedIn, Bytes.toList_concat]

theorem Account.initial (limits : Limits) (o : ObjectId) (info : ObjectInfo) :
    Account (τ := τ) limits { object := o, info } [] .empty false :=
  .underway rfl (.nothing rfl rfl)
    ⟨by simp, Int.le_trans (by decide) (Int.le_max_left 1 _), .inl rfl, by simp⟩

theorem account_of_run (ho : ∀ x ∈ (final e ops s).2.store.log, x.isOrdinary) {data : Bytes}
    {published : Bool} (h : Account e.limits s.1 s.2.store.log data published) :
    Account e.limits (final e ops s).1 (final e ops s).2.store.log
      (data ++ acceptedIn (turns e ops s)) (published || publishedIn (turns e ops s)) := by
  induction ops generalizing s data published with
  | nil => simpa [acceptedIn, publishedIn, Bytes.concat] using h
  | cons op ops ih =>
    have ht : _ ∈ turns e (op :: ops) s := List.mem_cons_self
    have hstep := h.move (move_of_mem_turns ht) fun x hx => ho x ((serves e.recorded).mem_log ht hx)
    rw [← (serves e.recorded).log_after ht] at hstep
    have := ih ho hstep
    simpa [acceptedIn_cons, publishedIn, ByteArray.append_assoc, Bool.or_assoc] using this

theorem final_sameTarget (e : Channel.Setting σ τ) (ops : List Operation)
    (s : Writer × World (Recorded σ τ)) : SameTarget s.1 (final e ops s).1 :=
  sameTarget_of_run e.recorded ops s

/-- The account at the time of a turn. -/
theorem account_of_mem_turns (ho : ∀ x ∈ (final e ops s).2.store.log, x.isOrdinary)
    {data : Bytes} {published : Bool} (h : Account e.limits s.1 s.2.store.log data published)
    {t : Turn Writer (Recorded σ τ)}
    (ht : t ∈ turns e ops s) :
    ∃ data' published', Account e.limits t.before.1 t.before.2.store.log data' published' ∧
      SameTarget s.1 t.before.1 := by
  obtain ⟨ops₁, ops₂, -, hb, -⟩ := ChannelAction.of_mem_turns _ ht
  have hbefore : ∀ x ∈ (final e ops₁ s).2.store.log, x.isOrdinary := by
    rw [final, ← hb]
    exact fun x hx => ho x ((serves e.recorded).mem_log_of_before ht hx)
  rw [hb]
  exact ⟨_, _, account_of_run hbefore h, final_sameTarget e ops₁ s⟩

end Writer

end ObjectChannel
