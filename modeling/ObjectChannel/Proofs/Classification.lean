/-
Callers branch on the kind of a failure. Whatever a backend or a stream raises, in whatever state a
channel is: every operation of the three kinds of channel, the opening of a mirror, and the two requests
that a service makes itself report it in the same way, and an abort that fails is not reported at all.
-/
import ObjectChannel.Proofs.Mirrored.Effect
import ObjectChannel.Proofs.Mirrored.Report
import ObjectChannel.Proofs.Reader.Report
import ObjectChannel.Proofs.Writer.Forgiving
import ObjectChannel.Proofs.Writer.Report
import ObjectChannel.Service

namespace ObjectChannel

variable {σ τ : Type}

theorem Writer.performWriter_reports (e : Channel.Setting σ τ) (op : Operation)
    (s : Writer × World (Recorded σ τ)) :
    e.backend.ReportsBetween e.limits s.2.store (Channel.performWriter e.recorded op s).2.2.store
      (failureIn (Channel.performWriter e.recorded op s).1) := by
  obtain ⟨es, hm, hr⟩ := Writer.move e.recorded op s
  exact ⟨es, hr.of_recorded.2, hm.reports⟩

namespace Mirrored

variable {b : Backend σ τ} {limits : Limits}

theorem open_reports (o : ObjectId) (q : OpenRequest) (W : World (Recorded σ τ)) :
    b.ReportsBetween limits W.store (Mirrored.open b.recorded limits o q W).2.store
      (failureOf (Mirrored.open b.recorded limits o q W).1) := by
  rcases h : Mirrored.open b.recorded limits o q W with ⟨r, W'⟩
  obtain ⟨es, hm, hr⟩ := open_move h
  exact ⟨es, hr.of_recorded.2, hm.reports⟩

/-- Only closing has anything to do with the store. -/
theorem performMirrored_reports (e : Channel.Setting σ τ) (op : Operation)
    (s : Mirrored × World (Recorded σ τ)) :
    e.backend.ReportsBetween e.limits s.2.store (Channel.performMirrored e.recorded op s).2.2.store
      (failureIn (Channel.performMirrored e.recorded op s).1) := by
  cases hop : op.isClosing with
  | true =>
    obtain ⟨es, r, hm, hout, hr⟩ := performMirrored_close e.recorded hop s
    rw [hout, failureIn_map (fun _ => Answer.none) fun _ => rfl]
    exact ⟨es, hr.of_recorded.2, hm.reports⟩
  | false =>
    obtain ⟨file, time, mirrors, hs⟩ := performMirrored_retouched (b := e.recorded) hop s
    rw [hs]
    exact .refl _ _

end Mirrored

namespace Channel

theorem perform_reports (e : Setting σ τ) (op : Operation) (s : Channel × World (Recorded σ τ)) :
    e.backend.ReportsBetween e.limits s.2.store (perform e.recorded op s).2.2.store
      (failureIn (perform e.recorded op s).1) := by
  obtain ⟨c, W⟩ := s
  cases c with
  | writer w => exact Writer.performWriter_reports e op (w, W)
  | reader r => exact Reader.performReader_reports e op (r, W)
  | mirrored m => exact Mirrored.performMirrored_reports e op (m, W)

end Channel

namespace Service

variable {b : Backend σ τ} {limits : Limits} {W : World (Recorded σ τ)}

/-- A request of the service's own. -/
theorem attempt_reports {r : Request} (what : Transfer) (o : ObjectId) (hget : r.isGet = false)
    (hr : r.isUploadFile = false) :
    b.ReportsBetween limits W.store
      (Action.mapFailure (World.request b.recorded r) (.transferFailed what o) W).2.store
      (failureOf (Action.mapFailure (World.request b.recorded r) (.transferFailed what o) W).1) := by
  rw [Action.mapFailure_apply, World.request_apply, World.answered_store]
  exact ⟨_, rfl, .request _ what o hget hr⟩

/-- The service over a store with a record. -/
def recorded (s : Service σ τ) : Service (Recorded σ τ) τ :=
  { settings := s.settings, bucket := s.bucket, backend := s.backend.recorded }

theorem objectExists_reports (s : Service σ τ) (key : String) :
    s.backend.ReportsBetween limits W.store (s.recorded.objectExists key W).2.store
      (failureOf (s.recorded.objectExists key W).1) := by
  simp only [objectExists, Action.bind_apply, Action.ofExcept_apply]
  cases s.recorded.objectId key with
  | error e => exact .refl _ _
  | ok o =>
    have h : s.backend.ReportsBetween limits W.store _ _ :=
      attempt_reports (r := .head o) .probe o rfl rfl
    simp only [Mirrored.probe, recorded, Action.bind_apply]
    rcases hx : Action.mapFailure (World.request s.backend.recorded (.head o)) (.transferFailed .probe o) W
      with ⟨_ | _, _⟩ <;> rw [hx] at h <;> exact h

theorem delete_reports (s : Service σ τ) (key : String) :
    s.backend.ReportsBetween limits W.store (s.recorded.delete key W).2.store
      (failureOf (s.recorded.delete key W).1) := by
  simp only [delete, Action.bind_apply, Action.ofExcept_apply]
  cases s.recorded.objectId key with
  | error e => exact .refl _ _
  | ok o => exact attempt_reports .delete o rfl rfl

end Service

/-! ## All of them -/

/-- How failures are told apart over a backend that may fail at any request. What is said is said of
every state of a channel and of the world. -/
structure Channel.Setting.TellsFailures (e : Channel.Setting σ τ) : Prop where
  /-- Every operation of a channel reports what goes wrong in it. -/
  operation : ∀ op s, e.backend.ReportsBetween e.limits s.2.store (perform e.recorded op s).2.2.store
    (failureIn (perform e.recorded op s).1)
  /-- So does the opening of a mirrored channel. -/
  opening : ∀ (o : ObjectId) (q : OpenRequest) (W : World (Recorded σ τ)),
    e.backend.ReportsBetween e.limits W.store
      (Mirrored.open e.recorded.backend e.limits o q W).2.store
      (failureOf (Mirrored.open e.recorded.backend e.limits o q W).1)
  /-- So do the two requests that a service makes itself. -/
  looking : ∀ settings bucket key (W : World (Recorded σ τ)),
    e.backend.ReportsBetween e.limits W.store
      ((⟨settings, bucket, e.backend⟩ : Service σ τ).recorded.objectExists key W).2.store
      (failureOf ((⟨settings, bucket, e.backend⟩ : Service σ τ).recorded.objectExists key W).1)
  deleting : ∀ settings bucket key (W : World (Recorded σ τ)),
    e.backend.ReportsBetween e.limits W.store
      ((⟨settings, bucket, e.backend⟩ : Service σ τ).recorded.delete key W).2.store
      (failureOf ((⟨settings, bucket, e.backend⟩ : Service σ τ).recorded.delete key W).1)
  /-- An abort that fails makes no difference but a warning for it. -/
  aborting : ∀ op (w : Writer) W,
    Writer.Alongside W (performWriter e.recorded op (w, W))
      (performWriter { e with backend := e.backend.forgiving }.recorded op (w, W))

/-- **Failures are told apart in the same way everywhere**: by the kind that is due, with the failure
itself as the cause. -/
theorem failures_told_apart (e : Channel.Setting σ τ) (hb : e.backend.RemarksQuietly) :
    e.TellsFailures where
  operation := Channel.perform_reports e
  opening := Mirrored.open_reports
  looking settings bucket key _ := Service.objectExists_reports ⟨settings, bucket, e.backend⟩ key
  deleting settings bucket key _ := Service.delete_reports ⟨settings, bucket, e.backend⟩ key
  aborting op w W := Writer.performWriter_alongside hb op W W W w (.refl W)

theorem Store.memoryBackend_remarksQuietly (plan : Store.Plan Store.Method Unit)
    (streams : Store.StreamPlan) : (Store.memoryBackend plan streams).RemarksQuietly :=
  fun _ _ h => nomatch h

theorem S3.backend_remarksQuietly (settings : Settings) (plan : Store.Plan S3.Method S3.CannedReply)
    (streams : Store.StreamPlan) (nesting : Nat) :
    (S3.backend settings plan streams nesting).RemarksQuietly := by
  intro r event h
  unfold S3.backend at h
  cases r with
  | uploadFile o path content workers info =>
    simp only at h
    split at h <;> cases h
    rfl
  | _ => cases h

/-- A store in memory where parts are refused, uploads are not forgotten, parallel uploads are called
off, and streams break and do not close either. -/
def failingStore : Channel.Setting Store.MemoryStore Store.Stream where
  backend := Store.memoryBackend
    (.ofRules [⟨.uploadPart, none, .raise .noMemory⟩, ⟨.abortUpload, none, .raise .noWorkers⟩,
      ⟨.uploadFile, none, .raise .cancelled⟩])
    fun _ => { failAfter := some 1, closeFails := true }
  limits := { minPartSize := 1 }

theorem failures_told_apart_over_failing_store : failingStore.TellsFailures :=
  failures_told_apart failingStore (Store.memoryBackend_remarksQuietly _ _)

end ObjectChannel
