/-
What the operations of a writer can come to: the requests that are made, in order and with what came
of each, the outcome, and the writer that is left. The store is not mentioned, so that what follows
here holds over any store, however it answers.

`performWriter_move`: every operation of a writer is one of these moves, and the requests of the move
are the ones that were made.
-/
import ObjectChannel.Proofs.Run

namespace ObjectChannel.Writer

open ChannelAction

variable {σ τ : Type}

/-! ## Moves -/

/-- How an abort ends: of its failures only an interrupt goes on. -/
def afterAbort : Except Failure Unit → Except Failure Unit
  | .error e => if e.isInterrupt then .error e else .ok ()
  | .ok _ => .ok ()

inductive AbortMove (w : Writer) : List (Exchange τ) → Except Failure Unit → Writer → Prop where
  | none (h : w.uploadId = none) : AbortMove w [] (.ok ()) w
  | attempt {id} (h : w.uploadId = some id) (x : Except Failure Unit) :
    AbortMove w [.call (.abortUpload w.object id) x] (afterAbort x)
      { w with uploadId := .none, parts := [] }

/-- The failure that is raised once an abort has ended. -/
def raised (abort : Except Failure Unit) (e : Failure) : Except Failure Unit :=
  match abort with
  | .error e' => .error e'
  | .ok _ => .error e

/-- The request that sends a block as the next part. -/
def partRequest (w : Writer) (id : String) (block : Bytes) (isLast : Bool) : Request :=
  .uploadPart w.object id (w.parts.length + 1 : Nat) block block.size isLast

inductive PartMove (w : Writer) (id : String) (block : Bytes) (isLast : Bool) :
    List (Exchange τ) → Except Failure Unit → Writer → Prop where
  | taken (p : CompletedPart) :
    PartMove w id block isLast [.call (w.partRequest id block isLast) (.ok p)] (.ok ())
      { w with parts := w.parts ++ [p] }
  | refused {e es r w'} (he : e.isInterrupt = false)
    (abort : AbortMove { w with closed := true } es r w') :
    PartMove w id block isLast (.call (w.partRequest id block isLast) (.error e) :: es)
      (raised r (.transferFailed (.uploadPart (w.parts.length + 1)) w.object e)) w'
  | interrupted {e} (he : e.isInterrupt = true) :
    PartMove w id block isLast [.call (w.partRequest id block isLast) (.error e)] (.error e) w

inductive UploadMove (w : Writer) (block : Bytes) (isLast : Bool) :
    List (Exchange τ) → Except Failure Unit → Writer → Prop where
  | further {id es r w'} (h : w.uploadId = some id) (part : PartMove w id block isLast es r w') :
    UploadMove w block isLast es r w'
  | first {es r w'} (h : w.uploadId = none) (u : MultipartUpload)
    (part : PartMove { w with uploadId := some u.uploadId, parts := [] } u.uploadId block isLast
      es r w') :
    UploadMove w block isLast (.call (.beginUpload w.object w.info) (.ok u) :: es) r w'
  | refused {e} (h : w.uploadId = none) (he : e.isInterrupt = false) :
    UploadMove w block isLast [.call (.beginUpload w.object w.info) (.error e)]
      (.error (.transferFailed .beginUpload w.object e)) { w with closed := true }
  | interrupted {e} (h : w.uploadId = none) (he : e.isInterrupt = true) :
    UploadMove w block isLast [.call (.beginUpload w.object w.info) (.error e)] (.error e) w

inductive CompleteMove (w : Writer) (id : String) :
    List (Exchange τ) → Except Failure Unit → Writer → Prop where
  | completed :
    CompleteMove w id [.call (.completeUpload w.object id w.parts) (.ok ())] (.ok ())
      { w with uploadId := none, parts := [] }
  | refused {e es r w'} (he : e.isInterrupt = false) (abort : AbortMove w es r w') :
    CompleteMove w id (.call (.completeUpload w.object id w.parts) (.error e) :: es)
      (raised r (.transferFailed .completeUpload w.object e)) w'
  | interrupted {e} (he : e.isInterrupt = true) :
    CompleteMove w id [.call (.completeUpload w.object id w.parts) (.error e)] (.error e) w

/-- The writer has as many parts as an upload may have. -/
def isFull (w : Writer) (limits : Limits) : Bool :=
  w.uploadId.isSome && limits.maxParts ≤ w.parts.length

inductive WriteMove (limits : Limits) (w : Writer) : Option Bytes →
    List (Exchange τ) → Except Failure Nat → Writer → Prop where
  | closed {data} (h : w.closed = true) :
    WriteMove limits w data [] (.error (.ofChannel (.closed w.object))) w
  | notBytes (h : w.closed = false) : WriteMove limits w none [] (.error .notBytes) w
  | nothing {data} (h : w.closed = false) (hd : data.size = 0) :
    WriteMove limits w (some data) [] (.ok 0) w
  | full {data es r w'} (h : w.closed = false) (hd : data.size ≠ 0)
    (hf : w.isFull limits = true)
    (abort : AbortMove { w with closed := true, pending := .empty } es r w') :
    WriteMove limits w (some data) es
      (do r; .error (.ofChannel (.partLimit limits.maxParts w.object))) w'
  | sent {data es r w'} (h : w.closed = false) (hd : data.size ≠ 0)
    (hf : w.isFull limits = false) (hs : limits.minPartSize ≤ w.pending.size + data.size)
    (upload : UploadMove { w with pending := .empty } (w.pending.append data).toBytes false es r w') :
    WriteMove limits w (some data) es (do r; .ok data.size) w'
  | held {data} (h : w.closed = false) (hd : data.size ≠ 0) (hf : w.isFull limits = false)
    (hs : w.pending.size + data.size < limits.minPartSize) :
    WriteMove limits w (some data) [] (.ok data.size) { w with pending := w.pending.append data }

inductive PublishMove (limits : Limits) (w : Writer) :
    List (Exchange τ) → Except Failure Unit → Writer → Prop where
  | stored (h : w.uploadId = none) (x : PutResult) :
    PublishMove limits w
      [.call (.put w.object w.pending.toBytes w.pending.toBytes.size w.info) (.ok x)] (.ok ()) w
  | notStored (h : w.uploadId = none) (e : Failure) :
    PublishMove limits w
      [.call (.put w.object w.pending.toBytes w.pending.toBytes.size w.info) (.error e)]
      (.error (e.raisedIn .put w.object)) w
  | assembled {id es r w'} (h : w.uploadId = some id) (hl : limits.maxParts ≤ w.parts.length)
    (complete : CompleteMove w id es r w') : PublishMove limits w es r w'
  | extended {id es w' es' r w''} (h : w.uploadId = some id)
    (hl : (w.parts.length : Int) < limits.maxParts)
    (upload : UploadMove w w.pending.toBytes true es (.ok ()) w')
    (complete : CompleteMove w' id es' r w'') : PublishMove limits w (es ++ es') r w''
  | stopped {id es e w'} (h : w.uploadId = some id)
    (hl : (w.parts.length : Int) < limits.maxParts)
    (upload : UploadMove w w.pending.toBytes true es (.error e) w') :
    PublishMove limits w es (.error e) w'

inductive CloseMove (limits : Limits) (w : Writer) :
    List (Exchange τ) → Except Failure Unit → Writer → Prop where
  | again (h : w.closed = true) : CloseMove limits w [] (.ok ()) w
  | published {es r w'} (h : w.closed = false) (publish : PublishMove limits w es r w') :
    CloseMove limits w es r { w' with pending := .empty, closed := true }

inductive DiscardMove (w : Writer) : List (Exchange τ) → Except Failure Unit → Writer → Prop where
  | again (h : w.closed = true) : DiscardMove w [] (.ok ()) w
  | dropped {es r w'} (h : w.closed = false)
    (abort : AbortMove { w with closed := true, pending := .empty } es r w') :
    DiscardMove w es r w'

inductive Move (limits : Limits) (w : Writer) : Operation →
    List (Exchange τ) → Except Failure Answer → Writer → Prop where
  | write {data es r w'} (h : WriteMove limits w data es r w') :
    Move limits w (.write data) es (do return .count (← r)) w'
  | close {op es r w'} (hop : op.closes = true) (h : CloseMove limits w es r w') :
    Move limits w op es (do r; return .none) w'
  | discard {op es r w'} (hop : op = .discard ∨ op = .leave true) (h : DiscardMove w es r w') :
    Move limits w op es (do r; return .none) w'
  /-- Everything else makes no request, and at most notes a position. -/
  | other {op r p} (hop : op.closes = false) (hw : ∀ data, op ≠ .write data) :
    Move limits w op [] r { w with notedPosition := p }

/-! ## What moves leave alone -/

section

variable {limits : Limits} {w w' : Writer} {es : List (Exchange τ)}

/-- The writer is for the same object, with the same information. -/
def SameTarget (w w' : Writer) : Prop := w'.object = w.object ∧ w'.info = w.info

theorem AbortMove.sameTarget {r : Except Failure Unit} (h : AbortMove w es r w') :
    SameTarget w w' := by
  cases h <;> exact ⟨rfl, rfl⟩

theorem PartMove.sameTarget {id : String} {block : Bytes} {isLast : Bool}
    {r : Except Failure Unit} (h : PartMove w id block isLast es r w') : SameTarget w w' := by
  cases h with
  | taken | interrupted => exact ⟨rfl, rfl⟩
  | refused he abort => exact abort.sameTarget

theorem UploadMove.sameTarget {block : Bytes} {isLast : Bool} {r : Except Failure Unit}
    (h : UploadMove w block isLast es r w') : SameTarget w w' := by
  cases h with
  | further hid part => exact part.sameTarget
  | first hid u part => exact part.sameTarget
  | refused | interrupted => exact ⟨rfl, rfl⟩

theorem CompleteMove.sameTarget {id : String} {r : Except Failure Unit}
    (h : CompleteMove w id es r w') : SameTarget w w' := by
  cases h with
  | completed | interrupted => exact ⟨rfl, rfl⟩
  | refused he abort => exact abort.sameTarget

theorem PublishMove.sameTarget {r : Except Failure Unit} (h : PublishMove limits w es r w') :
    SameTarget w w' := by
  cases h with
  | stored | notStored => exact ⟨rfl, rfl⟩
  | assembled hid hl complete => exact complete.sameTarget
  | stopped hid hl upload => exact upload.sameTarget
  | extended hid hl upload complete =>
    have h₁ := upload.sameTarget
    have h₂ := complete.sameTarget
    exact ⟨h₂.1.trans h₁.1, h₂.2.trans h₁.2⟩

theorem Move.sameTarget {op : Operation} {r : Except Failure Answer}
    (h : Move limits w op es r w') : SameTarget w w' := by
  cases h with
  | write m =>
    cases m with
    | closed | notBytes | nothing | held => exact ⟨rfl, rfl⟩
    | full hc hd hf abort => exact abort.sameTarget
    | sent hc hd hf hs upload => exact upload.sameTarget
  | close hop m =>
    cases m with
    | again => exact ⟨rfl, rfl⟩
    | published hc publish => exact publish.sameTarget
  | discard hop m =>
    cases m with
    | again => exact ⟨rfl, rfl⟩
    | dropped hc abort => exact abort.sameTarget
  | other => exact ⟨rfl, rfl⟩

/-- A closed writer asks for nothing, and stays closed. -/
theorem Move.silent {op : Operation} {r : Except Failure Answer} (h : Move limits w op es r w')
    (hc : w.closed = true) : es = [] ∧ w'.closed = true := by
  cases h with
  | write m =>
    cases m with
    | closed => exact ⟨rfl, hc⟩
    | notBytes hc' | nothing hc' | full hc' | sent hc' | held hc' => simp [hc] at hc'
  | close hop m =>
    cases m with
    | again => exact ⟨rfl, hc⟩
    | published hc' => simp [hc] at hc'
  | discard hop m =>
    cases m with
    | again => exact ⟨rfl, hc⟩
    | dropped hc' => simp [hc] at hc'
  | other => exact ⟨rfl, hc⟩

end

/-! ## Every step is a move -/

section

variable {b : Backend σ τ} {limits : Limits} {w w' : Writer} {W W' : World σ}

theorem abortUpload_move {r : Except Failure Unit} (h : abortUpload b (w, W) = (r, (w', W'))) :
    ∃ es, AbortMove w es r w' ∧ b.Runs W.store es W'.store := by
  cases hid : w.uploadId with
  | none =>
    simp only [abortUpload, Action.bind_apply, this_apply, hid] at h
    cases h
    exact ⟨[], .none hid, .nil⟩
  | some id =>
    rcases hc : b.call (.abortUpload w.object id) W.store with ⟨x, s⟩
    simp only [abortUpload, Action.bind_apply, this_apply, hid, world_apply, World.log_apply,
      World.count_apply, Action.ensuring_apply, Action.recover_apply, World.request_apply,
      World.logged_store, World.counted_store, hc] at h
    have hm := AbortMove.attempt (τ := τ) hid x
    cases x with
    | ok u =>
      cases h
      exact ⟨_, hm, .answered hc⟩
    | error e =>
      cases he : e.isInterrupt <;> simp only [he, afterAbort] at h hm <;> cases h <;>
        exact ⟨_, hm, .answered hc⟩

theorem sendPart_move {id : String} {block : Bytes} {last : Bool} {r : Except Failure Unit}
    (h : sendPart b id block last (w, W) = (r, (w', W'))) :
    ∃ es, PartMove w id block last es r w' ∧ b.Runs W.store es W'.store := by
  rcases hc : b.call (w.partRequest id block last) W.store with ⟨x, s⟩
  have hc' := hc
  unfold partRequest at hc'
  simp only [sendPart, Action.bind_apply, this_apply, world_apply, World.log_apply,
    Action.recover_apply, World.request_apply, World.logged_store] at h
  cases x with
  | ok p =>
    simp only [hc', change_apply, World.count_apply] at h
    cases h
    exact ⟨_, .taken p, .answered hc⟩
  | error e =>
    cases he : e.isInterrupt with
    | true =>
      simp only [hc', he] at h
      cases h
      exact ⟨_, .interrupted he, .answered hc⟩
    | false =>
      simp only [hc', he, change_apply, Bool.false_eq_true, ite_false] at h
      generalize hW : World.answered _ b _ = W₁ at h
      have hs : s = W₁.store := by simp [← hW, hc']
      rcases ha : abortUpload b ({ w with closed := true }, W₁) with ⟨_ | _, _⟩ <;>
        simp only [ha] at h <;> cases h <;> obtain ⟨es, hm, hr⟩ := abortUpload_move ha <;>
        exact ⟨_, .refused he hm, .call hc (hs ▸ hr)⟩

theorem uploadPart_move {block : Bytes} {last : Bool} {r : Except Failure Unit}
    (h : uploadPart b block last (w, W) = (r, (w', W'))) :
    ∃ es, UploadMove w block last es r w' ∧ b.Runs W.store es W'.store := by
  cases hid : w.uploadId with
  | some id =>
    simp only [uploadPart, Action.bind_apply, this_apply, hid, Option.isNone_some, Bool.false_eq_true,
      ite_false] at h
    obtain ⟨es, hm, hr⟩ := sendPart_move h
    exact ⟨es, .further hid hm, hr⟩
  | none =>
    rcases hc : b.call (.beginUpload w.object w.info) W.store with ⟨x, s⟩
    simp only [uploadPart, beginUpload, Action.bind_apply, this_apply, hid, Option.isNone_none,
      ite_true, world_apply, World.log_apply, Action.recover_apply, World.request_apply,
      World.logged_store, hc] at h
    cases x with
    | ok u =>
      obtain ⟨es, hm, hr⟩ := sendPart_move h
      exact ⟨_, .first hid u hm, .call hc (by simpa [hc] using hr)⟩
    | error e =>
      cases he : e.isInterrupt <;> simp only [he] at h <;> cases h
      · exact ⟨_, .refused hid he, .answered hc⟩
      · exact ⟨_, .interrupted hid he, .answered hc⟩

theorem completeUpload_move {id : String} {r : Except Failure Unit}
    (h : completeUpload b id (w, W) = (r, (w', W'))) :
    ∃ es, CompleteMove w id es r w' ∧ b.Runs W.store es W'.store := by
  rcases hc : b.call (.completeUpload w.object id w.parts) W.store with ⟨x, s⟩
  simp only [completeUpload, Action.bind_apply, this_apply, world_apply, World.log_apply,
    Action.recover_apply, World.request_apply, World.logged_store, hc] at h
  cases x with
  | ok u =>
    cases h
    exact ⟨_, .completed, .answered hc⟩
  | error e =>
    cases he : e.isInterrupt with
    | true =>
      simp only [he] at h
      cases h
      exact ⟨_, .interrupted he, .answered hc⟩
    | false =>
      simp only [he, Bool.false_eq_true, ite_false] at h
      generalize hW : World.answered _ b _ = W₁ at h
      have hs : s = W₁.store := by simp [← hW, hc]
      rcases ha : abortUpload b (w, W₁) with ⟨_ | _, _⟩ <;>
        simp only [ha] at h <;> cases h <;> obtain ⟨es, hm, hr⟩ := abortUpload_move ha <;>
        exact ⟨_, .refused he hm, .call hc (hs ▸ hr)⟩

theorem putObject_move (limits : Limits) {r : Except Failure Unit} (hid : w.uploadId = none)
    (h : putObject b (w, W) = (r, (w', W'))) :
    ∃ es, PublishMove limits w es r w' ∧ b.Runs W.store es W'.store := by
  rcases hc : b.call (.put w.object w.pending.toBytes w.pending.toBytes.size w.info) W.store
    with ⟨x, s⟩
  simp only [putObject, Action.bind_apply, this_apply, world_apply, Action.mapFailure_apply,
    World.request_apply, hc] at h
  cases x with
  | ok u =>
    cases h
    exact ⟨_, .stored hid u, .answered hc⟩
  | error e =>
    cases h
    exact ⟨_, .notStored hid e, .answered hc⟩

theorem write_move {data : Option Bytes} {r : Except Failure Nat}
    (h : write b limits data (w, W) = (r, (w', W'))) :
    ∃ es, WriteMove limits w data es r w' ∧ b.Runs W.store es W'.store := by
  simp only [write, Action.bind_apply, this_apply] at h
  cases hw : w.closed with
  | true =>
    simp only [hw] at h
    cases h
    exact ⟨[], .closed hw, .nil⟩
  | false =>
    simp only [hw] at h
    cases data with
    | none =>
      cases h
      exact ⟨[], .notBytes hw, .nil⟩
    | some data =>
      by_cases hd : data.size = 0
      · have hd' : data.isEmpty = true := Bytes.isEmpty_iff.mpr hd
        simp only [hd'] at h
        cases h
        exact ⟨[], .nothing hw hd, .nil⟩
      have hd' : data.isEmpty = false := Bytes.isEmpty_eq_false hd
      have hf' : (w.uploadId.isSome && decide (limits.maxParts ≤ w.parts.length)) = w.isFull limits :=
        rfl
      simp only [hd', hf', Bool.false_eq_true, ite_false] at h
      cases hf : w.isFull limits with
      | true =>
        simp only [hf, ite_true, Action.bind_apply, change_apply] at h
        rcases ha : abortUpload b ({ w with closed := true, pending := .empty }, W)
          with ⟨_ | _, _⟩ <;>
          simp only [ha] at h <;> cases h <;> obtain ⟨es, hm, hr⟩ := abortUpload_move ha <;>
          exact ⟨es, .full hw hd hf hm, hr⟩
      | false =>
        by_cases hs : limits.minPartSize ≤ w.pending.size + data.size
        · simp only [hf, hs, Bool.false_eq_true, ite_false, ite_true, Action.bind_apply,
            change_apply] at h
          rcases hu : uploadPart b (w.pending.append data).toBytes false
            ({ w with pending := .empty }, W) with ⟨_ | _, _⟩ <;>
            simp only [hu] at h <;> cases h <;> obtain ⟨es, hm, hr⟩ := uploadPart_move hu <;>
            exact ⟨es, .sent hw hd hf hs hm, hr⟩
        · simp only [hf, hs, Bool.false_eq_true, ite_false, Action.bind_apply, change_apply] at h
          cases h
          exact ⟨[], .held hw hd hf (by omega), .nil⟩

theorem publish_move (limits : Limits) {id : String} {r : Except Failure Unit}
    (hid : w.uploadId = some id) (h : (do
        if w.parts.length < limits.maxParts then uploadPart b w.pending.toBytes true
        completeUpload b id : Step σ Unit) (w, W) = (r, (w', W'))) :
    ∃ es, PublishMove limits w es r w' ∧ b.Runs W.store es W'.store := by
  by_cases hl : (w.parts.length : Int) < limits.maxParts
  · simp only [hl, ite_true, Action.bind_apply] at h
    rcases hu : uploadPart b w.pending.toBytes true (w, W) with ⟨_ | _, ⟨w₁, W₁⟩⟩ <;>
      simp only [hu] at h <;> obtain ⟨es, hm, hr⟩ := uploadPart_move hu
    · cases h
      exact ⟨es, .stopped hid hl hm, hr⟩
    · obtain ⟨es', hm', hr'⟩ := completeUpload_move h
      exact ⟨es ++ es', .extended hid hl hm hm', hr.append hr'⟩
  · simp only [hl, ite_false] at h
    obtain ⟨es, hm, hr⟩ := completeUpload_move h
    exact ⟨es, .assembled hid (by omega) hm, hr⟩

theorem close_move {r : Except Failure Unit} (h : close b limits (w, W) = (r, (w', W'))) :
    ∃ es, CloseMove limits w es r w' ∧ b.Runs W.store es W'.store := by
  simp only [close, Action.bind_apply, this_apply] at h
  cases hw : w.closed with
  | true =>
    simp only [hw] at h
    cases h
    exact ⟨[], .again hw, .nil⟩
  | false =>
    simp only [hw, Bool.false_eq_true, ite_false, Action.ensuring_apply, change_apply] at h
    cases h
    cases hid : w.uploadId with
    | none =>
      obtain ⟨es, hm, hr⟩ := putObject_move (b := b) (W := W) limits hid rfl
      exact ⟨es, .published hw hm, hr⟩
    | some id =>
      obtain ⟨es, hm, hr⟩ := publish_move (b := b) (W := W) limits hid rfl
      exact ⟨es, .published hw hm, hr⟩

theorem discard_move {r : Except Failure Unit} (h : discard b (w, W) = (r, (w', W'))) :
    ∃ es, DiscardMove w es r w' ∧ b.Runs W.store es W'.store := by
  simp only [discard, Action.bind_apply, this_apply] at h
  cases hw : w.closed with
  | true =>
    simp only [hw] at h
    cases h
    exact ⟨[], .again hw, .nil⟩
  | false =>
    simp only [hw, Bool.false_eq_true, ite_false, Action.bind_apply, change_apply] at h
    obtain ⟨es, hm, hr⟩ := abortUpload_move h
    exact ⟨es, .dropped hw hm, hr⟩

/-- Every operation is one of the moves, with the requests that were made. -/
theorem performWriter_move (e : Channel.Setting σ τ) (op : Operation) {r : Except Failure Answer}
    (h : Channel.performWriter e op (w, W) = (r, (w', W'))) :
    ∃ es, Move e.limits w op es r w' ∧ e.backend.Runs W.store es W'.store := by
  cases op with
  | write data =>
    obtain ⟨x, hx, rfl⟩ := Action.of_map h
    obtain ⟨es, hm, hr⟩ := write_move hx
    exact ⟨es, .write hm, hr⟩
  | close =>
    obtain ⟨x, hx, rfl⟩ := Action.of_map (f := fun _ => Answer.none) h
    obtain ⟨es, hm, hr⟩ := close_move hx
    exact ⟨es, .close rfl hm, hr⟩
  | discard =>
    obtain ⟨x, hx, rfl⟩ := Action.of_map (f := fun _ => Answer.none) h
    obtain ⟨es, hm, hr⟩ := discard_move hx
    exact ⟨es, .discard (.inl rfl) hm, hr⟩
  | leave failed =>
    obtain ⟨x, hx, rfl⟩ := Action.of_map (f := fun _ => Answer.none) h
    cases failed with
    | true =>
      obtain ⟨es, hm, hr⟩ := discard_move hx
      exact ⟨es, .discard (.inr rfl) hm, hr⟩
    | false =>
      obtain ⟨es, hm, hr⟩ := close_move hx
      exact ⟨es, .close rfl hm, hr⟩
  | setPosition p =>
    cases h
    exact ⟨[], .other rfl (by simp), .nil⟩
  | position =>
    simp only [Channel.performWriter, Action.bind_apply, this_apply] at h
    cases hp : w.notedPosition <;> simp only [hp] at h <;> cases h <;>
      exact ⟨[], .other (p := w.notedPosition) rfl (by simp), .nil⟩
  | _ =>
    cases h
    exact ⟨[], .other (p := w.notedPosition) rfl (by simp), .nil⟩

theorem move (e : Channel.Setting σ τ) (op : Operation) (s : Writer × World σ) :
    ∃ es, Move e.limits s.1 op es (Channel.performWriter e op s).1
        (Channel.performWriter e op s).2.1 ∧
      e.backend.Runs s.2.store es (Channel.performWriter e op s).2.2.store :=
  performWriter_move e op rfl

theorem serves (e : Channel.Setting σ τ) : e.backend.Serves (Channel.performWriter e) := by
  intro op s
  obtain ⟨es, -, hr⟩ := move e op s
  exact ⟨es, hr⟩

/-- A run leaves a writer for the same object, with the same information. -/
theorem sameTarget_of_run (e : Channel.Setting σ τ) (ops : List Operation) (s : Writer × World σ) :
    SameTarget s.1 (ChannelAction.final (Channel.performWriter e) ops s).1 := by
  induction ops generalizing s with
  | nil => exact ⟨rfl, rfl⟩
  | cons op ops ih =>
    obtain ⟨es, hm, -⟩ := move e op s
    have h₁ := hm.sameTarget
    have h₂ := ih (Channel.performWriter e op s).2
    exact ⟨h₂.1.trans h₁.1, h₂.2.trans h₁.2⟩

end

end ObjectChannel.Writer
