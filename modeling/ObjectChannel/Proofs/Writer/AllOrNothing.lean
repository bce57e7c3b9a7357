/-
An object is written as a whole or not at all, whatever requests fail: only closing publishes it,
and whenever the writer is closed no upload is left behind.
-/
import ObjectChannel.Proofs.MemoryView
import ObjectChannel.Proofs.Writer.Effect

namespace ObjectChannel

variable {σ τ : Type}

namespace Exchange

/-- An attempt to have an upload forgotten. -/
def isAbort : Exchange τ → Bool
  | .call (.abortUpload ..) _ => true
  | _ => false

/-- An attempt to begin an upload. -/
def isBegin : Exchange τ → Bool
  | .call (.beginUpload ..) _ => true
  | _ => false

/-- An attempt to make an object of what was written. -/
def isPublishing : Exchange τ → Bool
  | .call (.put ..) _ | .call (.completeUpload ..) _ => true
  | _ => false

/-- A part that the store took. -/
def isPartTaken : Exchange τ → Bool
  | .call (.uploadPart ..) (.ok _) => true
  | _ => false

/-- An attempt to have this upload forgotten. -/
def aborts (id : String) : Exchange τ → Bool
  | .call (.abortUpload _ id') _ => id' == id
  | _ => false

/-- This upload was completed. -/
def completes (id : String) : Exchange τ → Bool
  | .call (.completeUpload _ id' _) (.ok _) => id' == id
  | _ => false

end Exchange

namespace Writer

variable {limits : Limits} {w w' : Writer} {es : List (Exchange τ)} {e : Failure}

/-! ## Failures within a move -/

theorem AbortMove.isAbort {r : Except Failure Unit} (h : AbortMove w es r w') {x : Exchange τ}
    (hx : x ∈ es) : x.isAbort = true := by
  cases h with
  | none => cases hx
  | attempt => rw [List.mem_singleton.mp hx]; rfl

theorem AbortMove.closed_eq {r : Except Failure Unit} (h : AbortMove w es r w') :
    w'.closed = w.closed := by
  cases h <;> rfl

/-- A refused part is what the move fails with, and leaves the writer closed. -/
theorem PartMove.failed {id : String} {block : Bytes} {isLast : Bool} {r : Except Failure Unit}
    (h : PartMove w id block isLast es r w') (ho : ∀ x ∈ es, x.isOrdinary) {x : Exchange τ}
    (hx : x ∈ es) (hf : x.failure? = some e) (ha : x.isAbort = false) :
    (∃ what, r = .error (.transferFailed what w.object e)) ∧ w'.closed = true := by
  cases h with
  | taken p => rw [List.mem_singleton.mp hx] at hf; cases hf
  | refused he abort =>
    rcases List.mem_cons.mp hx with rfl | hx
    · obtain rfl : _ = e := by simpa [Exchange.failure?] using hf
      have hr := abort.outcome fun y hy => ho y (.tail _ hy)
      exact ⟨⟨_, by rw [hr]; rfl⟩, abort.closed_eq⟩
    · simp [abort.isAbort hx] at ha
  | interrupted he =>
    exact (Exchange.false_of_interrupt he ho).elim

theorem UploadMove.failed {block : Bytes} {isLast : Bool} {r : Except Failure Unit}
    (h : UploadMove w block isLast es r w') (ho : ∀ x ∈ es, x.isOrdinary) {x : Exchange τ}
    (hx : x ∈ es) (hf : x.failure? = some e) (ha : x.isAbort = false) :
    (∃ what, r = .error (.transferFailed what w.object e)) ∧ w'.closed = true := by
  cases h with
  | further hid part => exact part.failed ho hx hf ha
  | first hid u part =>
    rcases List.mem_cons.mp hx with rfl | hx
    · cases hf
    · exact part.failed (fun y hy => ho y (.tail _ hy)) hx hf ha
  | refused hid he =>
    obtain rfl := List.mem_singleton.mp hx
    obtain rfl : _ = e := by simpa [Exchange.failure?] using hf
    exact ⟨⟨_, rfl⟩, rfl⟩
  | interrupted hid he =>
    exact (Exchange.false_of_interrupt he ho).elim

theorem CompleteMove.failed {id : String} {r : Except Failure Unit}
    (h : CompleteMove w id es r w') (ho : ∀ x ∈ es, x.isOrdinary) {x : Exchange τ}
    (hx : x ∈ es) (hf : x.failure? = some e) (ha : x.isAbort = false) :
    ∃ what, r = .error (.transferFailed what w.object e) := by
  cases h with
  | completed =>
    obtain rfl := List.mem_singleton.mp hx
    cases hf
  | refused he abort =>
    rcases List.mem_cons.mp hx with rfl | hx
    · obtain rfl : _ = e := by simpa [Exchange.failure?] using hf
      have hr := abort.outcome fun y hy => ho y (.tail _ hy)
      exact ⟨_, by rw [hr]; rfl⟩
    · simp [abort.isAbort hx] at ha
  | interrupted he =>
    exact (Exchange.false_of_interrupt he ho).elim

theorem PublishMove.failed {r : Except Failure Unit} (h : PublishMove limits w es r w')
    (ho : ∀ x ∈ es, x.isOrdinary) {x : Exchange τ} (hx : x ∈ es) (hf : x.failure? = some e)
    (ha : x.isAbort = false) : ∃ what, r = .error (.transferFailed what w.object e) := by
  cases h with
  | stored =>
    obtain rfl := List.mem_singleton.mp hx
    cases hf
  | notStored hid e' =>
    have he := Exchange.isInterrupt_of_isOrdinary (ho _ (.head _))
    obtain rfl := List.mem_singleton.mp hx
    obtain rfl : e' = e := by simpa [Exchange.failure?] using hf
    exact ⟨_, by rw [Failure.raisedIn_of_ordinary he]⟩
  | assembled hid hl complete => exact complete.failed ho hx hf ha
  | extended hid hl upload complete =>
    rcases List.mem_append.mp hx with hx | hx
    · obtain ⟨⟨what, hr⟩, -⟩ := upload.failed (fun y hy => ho y (List.mem_append_left _ hy)) hx hf ha
      cases hr
    · rw [← upload.sameTarget.1]
      exact complete.failed (fun y hy => ho y (List.mem_append_right _ hy)) hx hf ha
  | stopped hid hl upload => exact (upload.failed ho hx hf ha).1

theorem WriteMove.failed {d : Option Bytes} {r : Except Failure Nat}
    (h : WriteMove limits w d es r w') (ho : ∀ x ∈ es, x.isOrdinary) {x : Exchange τ}
    (hx : x ∈ es) (hf : x.failure? = some e) (ha : x.isAbort = false) :
    (∃ what, r = .error (.transferFailed what w.object e)) ∧ w'.closed = true := by
  cases h with
  | closed | notBytes | nothing | held => cases hx
  | full hc hd hfull abort => simp [abort.isAbort hx] at ha
  | sent hc hd hfull hs upload =>
    obtain ⟨⟨what, rfl⟩, hc'⟩ := upload.failed ho hx hf ha
    exact ⟨⟨what, rfl⟩, hc'⟩

/-- **A request that fails is what the operation fails with**, and leaves the writer closed. -/
theorem Move.failed {op : Operation} {r : Except Failure Answer} (h : Move limits w op es r w')
    (ho : ∀ x ∈ es, x.isOrdinary) {x : Exchange τ} (hx : x ∈ es) (hf : x.failure? = some e)
    (ha : x.isAbort = false) :
    (∃ what, r = .error (.transferFailed what w.object e)) ∧ w'.closed = true := by
  cases h with
  | write m =>
    obtain ⟨⟨what, rfl⟩, hc⟩ := m.failed ho hx hf ha
    exact ⟨⟨what, rfl⟩, hc⟩
  | close hop m =>
    cases m with
    | again => cases hx
    | published hc publish =>
      obtain ⟨what, rfl⟩ := publish.failed ho hx hf ha
      exact ⟨⟨what, rfl⟩, rfl⟩
  | discard hop m =>
    cases m with
    | again => cases hx
    | dropped hc abort => simp [abort.isAbort hx] at ha
  | other => cases hx

/-! ## Counts over an account -/

theorem countP_partCalls {p : Exchange τ → Bool} {o : ObjectId} {id : String}
    (hp : ∀ n block length isLast part,
      p (.call (.uploadPart o id n block length isLast) (.ok part)) = false)
    (sent : List SentPart) : (partCalls o id sent).countP p = 0 := by
  rw [List.countP_eq_zero]
  intro x hx
  obtain ⟨i, hi, rfl⟩ := mem_partCalls.mp hx
  simp [hp]

theorem countP_uploadCalls {p : Exchange τ → Bool} {o : ObjectId} {info : ObjectInfo}
    {u : MultipartUpload}
    (hp : ∀ n block length isLast part,
      p (.call (.uploadPart o u.uploadId n block length isLast) (.ok part)) = false)
    (sent : List SentPart) :
    (uploadCalls o info u sent).countP p =
      if p (.call (.beginUpload o info) (.ok u)) then 1 else 0 := by
  rw [uploadCalls, List.countP_cons, countP_partCalls hp, Nat.zero_add]

theorem eq_of_begun {o o' : ObjectId} {info info' : ObjectInfo} {u u' : MultipartUpload}
    {sent : List SentPart}
    (h : .call (.beginUpload o' info') (.ok u') ∈ uploadCalls (τ := τ) o info u sent) : u' = u := by
  rcases List.mem_cons.mp h with h | h
  · cases h
    rfl
  · obtain ⟨i, hi, he⟩ := mem_partCalls.mp h
    cases he

theorem Stopped.countP {o : ObjectId} {id : String} {es : List (Exchange τ)} (h : Stopped o id es)
    {p : Exchange τ → Bool}
    (hpart : ∀ n block length isLast e,
      p (.call (.uploadPart o id n block length isLast) (.error e)) = false)
    (hcomplete : ∀ parts e, p (.call (.completeUpload o id parts) (.error e)) = false) :
    es.countP p = 0 := by
  cases h with
  | nothing => rfl
  | part => simp [hpart]
  | complete => simp [hcomplete]

/-- An upload whose account has ended was completed and not aborted, or aborted once and not
completed. -/
theorem Ended.upload {o : ObjectId} {info : ObjectInfo} {log : List (Exchange τ)} {data : Bytes}
    {published : Bool} (h : Ended limits o info log data published) {o' : ObjectId}
    {info' : ObjectInfo} {u : MultipartUpload}
    (hu : .call (.beginUpload o' info') (.ok u) ∈ log) :
    (log.countP (Exchange.completes u.uploadId) = 1 ∧
        log.countP (Exchange.aborts u.uploadId) = 0) ∨
      (log.countP (Exchange.completes u.uploadId) = 0 ∧
        log.countP (Exchange.aborts u.uploadId) = 1) := by
  cases h with
  | unused => cases hu
  | notStored | notBegun => simp at hu
  | aborted u' sent hs x =>
    obtain rfl : u = u' := by
      rcases List.mem_append.mp hu with hu | hu
      · rcases List.mem_append.mp hu with hu | hu
        · exact eq_of_begun hu
        · cases hs <;> simp at hu
      · simp at hu
    refine .inr ⟨?_, ?_⟩
    · rw [List.countP_append, List.countP_append, countP_uploadCalls fun _ _ _ _ _ => rfl,
        hs.countP (fun _ _ _ _ _ => rfl) fun _ _ => rfl]
      rfl
    · rw [List.countP_append, List.countP_append, countP_uploadCalls fun _ _ _ _ _ => rfl,
        hs.countP (fun _ _ _ _ _ => rfl) fun _ _ => rfl]
      simp [Exchange.aborts]
  | published parts hpub =>
    cases hpub with
    | stored => simp at hu
    | @completed u' _ last hs hl =>
      obtain rfl : u = u' := by
        rcases List.mem_append.mp hu with hu | hu
        · exact eq_of_begun hu
        · simp at hu
      refine .inl ⟨?_, ?_⟩
      · rw [List.countP_append, countP_uploadCalls fun _ _ _ _ _ => rfl]
        simp [Exchange.completes]
      · rw [List.countP_append, countP_uploadCalls fun _ _ _ _ _ => rfl]
        rfl

/-- At most one upload is begun, and at most one attempt made to publish. -/
theorem Ended.counts {o : ObjectId} {info : ObjectInfo} {log : List (Exchange τ)} {data : Bytes}
    {published : Bool} (h : Ended limits o info log data published) :
    log.countP Exchange.isBegin ≤ 1 ∧ log.countP Exchange.isPublishing ≤ 1 := by
  cases h with
  | unused | notStored | notBegun =>
    exact ⟨Nat.le_trans List.countP_le_length (by simp), Nat.le_trans List.countP_le_length (by simp)⟩
  | @aborted u sent stop hs x =>
    have hb : stop.countP Exchange.isBegin = 0 := hs.countP (fun _ _ _ _ _ => rfl) fun _ _ => rfl
    have hp : stop.countP Exchange.isPublishing ≤ 1 := by
      cases hs <;> simp [Exchange.isPublishing]
    rw [List.countP_append, List.countP_append, countP_uploadCalls fun _ _ _ _ _ => rfl, hb,
      List.countP_append, List.countP_append, countP_uploadCalls fun _ _ _ _ _ => rfl]
    exact ⟨by simp [Exchange.isBegin], by simpa [Exchange.isPublishing] using hp⟩
  | published parts hpub =>
    cases hpub with
    | stored => exact ⟨Nat.le_trans List.countP_le_length (by simp),
        Nat.le_trans List.countP_le_length (by simp)⟩
    | completed hs hl =>
      rw [List.countP_append, countP_uploadCalls fun _ _ _ _ _ => rfl, List.countP_append,
        countP_uploadCalls fun _ _ _ _ _ => rfl]
      exact ⟨by simp [Exchange.isBegin], by simp [Exchange.isPublishing]⟩

theorem Account.upload {log : List (Exchange τ)} {data : Bytes} {published : Bool}
    (h : Account limits w log data published) (hc : w.closed = true) {o : ObjectId}
    {info : ObjectInfo} {u : MultipartUpload} (hu : .call (.beginUpload o info) (.ok u) ∈ log) :
    (log.countP (Exchange.completes u.uploadId) = 1 ∧
        log.countP (Exchange.aborts u.uploadId) = 0) ∨
      (log.countP (Exchange.completes u.uploadId) = 0 ∧
        log.countP (Exchange.aborts u.uploadId) = 1) := by
  cases h with
  | underway hc' => simp [hc] at hc'
  | closed _ hend => exact hend.upload hu

theorem Account.counts {log : List (Exchange τ)} {data : Bytes} {published : Bool}
    (h : Account limits w log data published) :
    log.countP Exchange.isBegin ≤ 1 ∧ log.countP Exchange.isPublishing ≤ 1 := by
  cases h with
  | closed hc hend => exact hend.counts
  | underway hc hs parts =>
    cases hs with
    | nothing => simp
    | upload =>
      rw [countP_uploadCalls fun _ _ _ _ _ => rfl, countP_uploadCalls fun _ _ _ _ _ => rfl]
      simp [Exchange.isBegin, Exchange.isPublishing]

/-- The parts that the store took from an open writer are those that it counts. -/
theorem Account.isFull {log : List (Exchange τ)} {data : Bytes} {published : Bool}
    (h : Account limits w log data published) (hc : w.closed = false)
    (hsome : 0 < log.countP Exchange.isPartTaken)
    (hfull : limits.maxParts ≤ log.countP Exchange.isPartTaken) : w.isFull limits = true := by
  cases h with
  | closed hc' => simp [hc] at hc'
  | @underway sent _ hs parts =>
    have hcount : log.countP Exchange.isPartTaken = sent.length := by
      cases hs with
      | nothing => rfl
      | @upload u =>
        have hall : (partCalls (τ := τ) w.object u.uploadId sent).countP Exchange.isPartTaken =
            (partCalls (τ := τ) w.object u.uploadId sent).length := by
          rw [List.countP_eq_length]
          intro x hx
          obtain ⟨i, hi, rfl⟩ := mem_partCalls.mp hx
          rfl
        rw [uploadCalls, List.countP_cons, hall]
        simp [partCalls, Exchange.isPartTaken]
    rw [hcount] at hsome hfull
    exact (hs.isFull_iff limits).mpr ⟨List.ne_nil_of_length_pos hsome, hfull⟩

/-! ## Turns -/

/-- A write at the part limit is refused, and leaves the writer closed. -/
theorem Move.refused {data : Bytes} {r : Except Failure Answer}
    (h : Move limits w (.write (some data)) es r w') (ho : ∀ x ∈ es, x.isOrdinary)
    (hc : w.closed = false) (hd : data.size ≠ 0) (hf : w.isFull limits = true) :
    r = .error (.ofChannel (.partLimit limits.maxParts w.object)) ∧ w'.closed = true := by
  cases h with
  | write m =>
    cases m with
    | closed hc' => simp [hc] at hc'
    | nothing hc' hd' => exact absurd hd' hd
    | sent hc' hd' hf' | held hc' hd' hf' => simp [hf] at hf'
    | full hc' hd' hf' abort =>
      rw [abort.outcome ho]
      exact ⟨rfl, abort.closed_eq⟩
  | close hop | discard hop => simp [Operation.closes] at hop
  | other hop hw => exact absurd rfl (hw _)

variable {e : Channel.Setting σ τ} {ops : List Operation} {s : Writer × World (Recorded σ τ)}

/-! ## All or nothing -/

/-- What holds of every run of a writer over a store that it may fail to reach at any time. -/
structure AllOrNothing {e : Channel.Setting σ τ} (V : e.backend.View) (ops : List Operation)
    (s : Writer × World (Recorded σ τ)) : Prop where
  /-- Once closing has published it, the object is the data of all writes that went well. Otherwise
  it is as it was, and other objects are so in any case. -/
  objects : (V.holds (final e ops s).2.store.store).object =
    if publishedIn (turns e ops s) then
      ((V.holds s.2.store.store).setObject s.1.object
        (some (V.keep s.1.info (acceptedIn (turns e ops s))))).object
    else (V.holds s.2.store.store).object
  /-- Also between two requests the object is as it was, up to the very last request. -/
  between : ∀ es s', es <+: (final e ops s).2.store.log →
    (publishedIn (turns e ops s) = true → es ≠ (final e ops s).2.store.log) →
    e.backend.Runs s.2.store.store es s' →
    (V.holds s').object = (V.holds s.2.store.store).object
  /-- A request that fails is what the operation fails with, unless it is an abort. -/
  failed : ∀ t ∈ turns e ops s, ∀ x ∈ t.exchanges, ∀ cause, x.failure? = some cause →
    x.isAbort = false →
    (∃ what, t.outcome = .error (.transferFailed what s.1.object cause)) ∧ t.after.1.closed = true
  /-- No write goes beyond the part limit. -/
  refused : ∀ t ∈ turns e ops s, ∀ data, t.operation = .write (some data) → data.size ≠ 0 →
    t.before.1.closed = false → 0 < t.before.2.store.log.countP Exchange.isPartTaken →
    e.limits.maxParts ≤ t.before.2.store.log.countP Exchange.isPartTaken →
    t.outcome = .error (.ofChannel (.partLimit e.limits.maxParts s.1.object)) ∧
      t.after.1.closed = true
  /-- A closed writer leaves no upload behind. -/
  uploads : (final e ops s).1.closed = true → ∀ o info u,
    .call (.beginUpload o info) (.ok u) ∈ (final e ops s).2.store.log →
    ((final e ops s).2.store.log.countP (Exchange.completes u.uploadId) = 1 ∧
        (final e ops s).2.store.log.countP (Exchange.aborts u.uploadId) = 0) ∨
      ((final e ops s).2.store.log.countP (Exchange.completes u.uploadId) = 0 ∧
        (final e ops s).2.store.log.countP (Exchange.aborts u.uploadId) = 1)
  /-- At most one upload is begun, and at most one attempt made to publish. -/
  once : (final e ops s).2.store.log.countP Exchange.isBegin ≤ 1 ∧
    (final e ops s).2.store.log.countP Exchange.isPublishing ≤ 1
  /-- A closed writer asks for nothing, and stays closed. -/
  closed : ∀ t ∈ turns e ops s, t.before.1.closed = true →
    t.exchanges = [] ∧ t.after.1.closed = true

/-- **A writer publishes all of its data or nothing**, whatever requests fail, unless they are
interrupted. -/
theorem all_or_nothing (e : Channel.Setting σ τ) (V : e.backend.View) (o : ObjectId)
    (info : ObjectInfo) (ops : List Operation) (W : World (Recorded σ τ)) (hlog : W.store.log = [])
    (ho : ∀ x ∈ (final e ops ({ object := o, info }, W)).2.store.log, x.isOrdinary = true) :
    AllOrNothing V ops ({ object := o, info }, W) := by
  have hinit : Account e.limits { object := o, info } W.store.log .empty false := by
    rw [hlog]
    exact .initial _ _ _
  have haccount := account_of_run ho hinit
  have htarget := final_sameTarget e ops ({ object := o, info }, W)
  obtain ⟨es, hruns, hes⟩ := (serves e.recorded).log_final ops ({ object := o, info }, W)
  obtain rfl : es = (final e ops ({ object := o, info }, W)).2.store.log := by
    rw [final, hes, hlog, List.nil_append]
  rw [ByteArray.empty_append, Bool.false_or] at haccount
  have hordinary : ∀ t ∈ turns e ops ({ object := o, info }, W), ∀ x ∈ t.exchanges,
      x.isOrdinary = true := fun t ht x hx => ho x ((serves e.recorded).mem_log ht hx)
  refine ⟨?_, ?_, ?_, ?_, ?_, haccount.counts, ?_⟩
  · cases hp : publishedIn (turns e ops ({ object := o, info }, W)) with
    | false =>
      rw [hp] at haccount
      exact haccount.objects_before V (List.prefix_refl _) (by simp) hruns
    | true =>
      rw [hp] at haccount
      rw [haccount.objects_after V hruns, htarget.1, htarget.2]
      rfl
  · intro es s' hpre hne hr
    exact haccount.objects_before V hpre hne hr
  · intro t ht x hx cause hf ha
    obtain ⟨_, _, -, htarget⟩ := account_of_mem_turns ho hinit ht
    obtain ⟨⟨what, hr⟩, hc⟩ := (move_of_mem_turns ht).failed (hordinary t ht) hx hf ha
    exact ⟨⟨what, by rw [hr, htarget.1]⟩, hc⟩
  · intro t ht data hop hd hc hsome hfull
    obtain ⟨_, _, hbefore, htarget⟩ := account_of_mem_turns ho hinit ht
    have hm := move_of_mem_turns ht
    rw [hop] at hm
    rw [← htarget.1]
    exact hm.refused (hordinary t ht) hc hd (hbefore.isFull hc hsome hfull)
  · intro hc o' info' u hu
    exact haccount.upload hc hu
  · intro t ht hc
    exact (move_of_mem_turns ht).silent hc

/-- A store in memory where uploads can neither be completed nor aborted. -/
def stuckUploads : Channel.Setting Store.MemoryStore Store.Stream where
  backend := Store.memoryBackend
    (.ofRules [⟨.completeUpload, none, .raise .noMemory⟩, ⟨.abortUpload, none, .raise .noMemory⟩])
    fun _ => {}
  limits := { minPartSize := 2, maxParts := 3 }

theorem all_or_nothing_of_stuck_upload :
    AllOrNothing (e := stuckUploads) (Store.memoryView _ _)
      [.write (some ⟨#[1, 2, 3]⟩), .write (some ⟨#[4]⟩), .leave false, .write (some ⟨#[5]⟩)]
      ({ object := ⟨"bucket", "key"⟩, info := {} }, Store.emptyWorld) :=
  all_or_nothing stuckUploads (Store.memoryView _ _) _ _ _ _ rfl (by decide +kernel)

end Writer

end ObjectChannel
