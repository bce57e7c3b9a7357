/-
A mirror is sent back with one request or in parallel, as its size has it. Which of the two it is makes
no difference to the object: both requests carry the same bytes and say the same about them, and a
store makes the same object of them.

`strategies_agree` compares two runs of a session that differ in the threshold alone: over any store
that has a view, and over the client of an S3 service with any settings, down to the request that the
service gets.
-/
import ObjectChannel.Proofs.Mirrored.Requests
import ObjectChannel.Proofs.S3.Notes
import ObjectChannel.Proofs.S3.Plain

namespace ObjectChannel

/-- The limits with another size above which a mirror is sent in parallel. -/
def Limits.withThreshold (limits : Limits) (n : Int) : Limits :=
  { limits with parallelThreshold := n }

namespace S3

/-! ## What the service gets -/

/-- The request has the service make an object of some bytes, all at once. -/
inductive Request.Makes (o : ObjectId) (content : Bytes) (p : WriteParams) : Request → Prop where
  | put : Makes o content p (.putObject o content content.size p)
  | file (workers : Int) : Makes o content p (.uploadFile o content p workers)

theorem Request.Makes.params {o : ObjectId} {content : Bytes} {p : WriteParams} {r : Request}
    (h : Request.Makes o content p r) : r.params? = some p := by
  cases h <;> rfl

namespace Service

variable {streams : Store.StreamPlan} {s : Service} {o : ObjectId} {content : Bytes} {p : WriteParams}
  {r : Request}

/-- Where nothing is planned, the object is made. -/
theorem call_makes (h : r.Makes o content p) :
    (call .none streams r s).2.contents = s.contents.put o (stored content p) := by
  cases h <;> rfl

end Service

namespace Client

variable {σ τ : Type} {send : Dispatch σ τ} {settings : Settings} {o : ObjectId} {s : σ}

theorem putObject_state (body : Bytes) (n : Int) (info : ObjectInfo) :
    (putObject send settings o body (.int n) info s).2 =
      (send (.putObject o body n (writeParams settings info)) s).2 := by
  simp only [putObject, Numeral.value, Action.bind_apply, Action.mapFailure_apply,
    Action.ofExcept_apply]
  rcases send (.putObject o body n (writeParams settings info)) s with ⟨_ | reply, s'⟩
  · rfl
  · have hmap (f : Failure → Failure) : (Except.ok reply).mapError f = .ok reply := rfl
    simp only [hmap]
    cases field reply "ETag" <;> cases field reply "VersionId" <;> rfl

theorem uploadFile_state (content : Bytes) {workers : Int} (hworkers : 0 < workers)
    (info : ObjectInfo) :
    (uploadFile send settings o content (.int workers) info s).2 =
      (send (.uploadFile o content (writeParams settings info) workers) s).2 := by
  have hcount : workersOf (.int workers) = .ok workers := if_pos hworkers
  simp only [uploadFile, hcount, Action.bind_apply, Action.ofExcept_apply, Action.mapFailure_apply]
  rcases send (.uploadFile o content (writeParams settings info) workers) s with ⟨_ | _, _⟩ <;> rfl

end Client

end S3

namespace Mirrored

open ChannelAction

variable {σ τ : Type}

/-! ## What is said about a mirror -/

/-- What is said about the content of a mirror when it is sent back: its type, if that is to be found
out, from its first bytes and the last component of the key; and the metadata that the caller gave,
with the channel's time written over if it has one. -/
structure Describes (names : ContentType.NameTypes) (o : ObjectId) (q : OpenRequest)
    (time : Option Time.DateTime) (content : Bytes) (info : ObjectInfo) : Prop where
  contentType : info.contentType = if q.detects then
    some (ContentType.detect names (content.take ContentType.headSize) (some o.fileName)) else none
  unset : time = none → info.metadata = q.metadata
  set : ∀ t, time = some t → ∀ k, info.metadata.get? k =
    if k = Time.lastModifiedKey then some (toString (Time.milliseconds t)) else q.metadata.get? k
  storageClass : info.storageClass = none

theorem syncInfo_describes (names : ContentType.NameTypes) {q : OpenRequest} {c : Mirrored}
    (hmetadata : c.metadata = q.metadata) (hdetects : c.detects = q.detects) :
    Describes names c.object q c.lastModified c.file.content (c.syncInfo names) := by
  refine ⟨?_, fun hnone => ?_, fun t ht k => ?_, rfl⟩
  · simp only [syncInfo, hdetects]
    rfl
  · simp only [syncInfo, syncMetadata, hnone, hmetadata]
  · simp only [syncInfo, syncMetadata, ht, hmetadata]
    show (q.metadata.insert Time.lastModifiedKey (toString (Time.milliseconds t))).get? k = _
    rw [Table.get?_insert]
    simp only [beq_iff_eq]

/-! ## Up to closing -/

/-- A channel that is to be closed: as it was opened, but for its file and its time. -/
structure IsOpenedFor (o : ObjectId) (q : OpenRequest) (os : OpenOptions) (s : Mirrored × World σ) :
    Prop where
  object : s.1.object = o
  options : s.1.options = os
  metadata : s.1.metadata = q.metadata
  detects : s.1.detects = q.detects
  isOpen : s.1.closed = false
  mirror : s.2.hasMirror s.1.mirror = true

variable {o : ObjectId} {q : OpenRequest} {os : OpenOptions}

theorem isOpenedFor_of_open {b : Backend σ τ} {limits : Limits} {m : Mirrored} {W W' : World σ}
    (hos : OpenOptions.ofGiven q.options = .ok os)
    (hopen : Mirrored.open b limits o q W = (.ok m, W')) : IsOpenedFor o q os (m, W') := by
  obtain ⟨es, hm, -⟩ := open_move hopen
  obtain ⟨hobject, hoptions, hclosed, -, hmirror⟩ := hm.opened
  obtain rfl := Except.ok.inj (hos.symm.trans hoptions)
  have hgiven : m.metadata = q.metadata ∧ m.detects = q.detects := by
    generalize hr : Except.ok m = r, W'.mirrors = M at hm
    cases hm with
    | badOptions | unfit | noDirectory | notFetched => cases hr
    | made | fetched =>
      cases hr
      exact ⟨rfl, rfl⟩
  exact ⟨hobject, rfl, hgiven.1, hgiven.2, hclosed, hmirror⟩

theorem IsOpenedFor.touched {s s' : Mirrored × World σ} (h : IsOpenedFor o q os s)
    (ht : Touched s s') : IsOpenedFor o q os s' := by
  obtain ⟨l, t, rfl⟩ := ht
  exact ⟨h.object, h.options, h.metadata, h.detects, h.isOpen, h.mirror⟩

/-- Until the channel is closed the threshold plays no part. -/
theorem final_withThreshold (e : Channel.Setting σ τ) (n : Int) {ops : List Operation}
    (hops : ∀ op ∈ ops, op.isClosing = false) (s : Mirrored × World σ) :
    final (Channel.performMirrored { e with limits := e.limits.withThreshold n }) ops s =
      final (Channel.performMirrored e) ops s := by
  induction ops generalizing s with
  | nil => rfl
  | cons op ops ih =>
    have hstep : Channel.performMirrored { e with limits := e.limits.withThreshold n } op =
        Channel.performMirrored e op := by
      have hop := hops op (.head _)
      cases op with
      | close | leave => cases hop
      | _ => rfl
    rw [final_cons, final_cons, hstep]
    exact ih (fun op' hop' => hops op' (.tail _ hop')) _

/-! ## Closing -/

/-- What passes from closing on is one request, which sends the mirror back. -/
theorem runs_from_closing (e : Channel.Setting σ τ) {s : Mirrored × World σ}
    (hs : IsOpenedFor o q os s) (hsync : os.isReadOnly = false)
    (hkeep : os.has .deleteOnClose = false) {closing : Operation}
    (hclosing : closing.isClosing = true) (ops : List Operation) :
    ∃ x, SentBack e.limits o s.1.file.content (s.2.mirrors.path s.1.mirror)
        (s.1.syncInfo e.names) x ∧
      e.backend.Runs s.2.store [x]
        (final (Channel.performMirrored e) (closing :: ops) s).2.store := by
  obtain ⟨es, r, hm, -, hruns⟩ := performMirrored_close e hclosing s
  obtain ⟨x, rfl, hsent, -⟩ := hm.sentBack hs.isOpen (by rw [hs.options]; exact hkeep)
    (by rw [hs.options]; exact hsync) hs.mirror
  obtain ⟨reply, hc⟩ := hm.channel
  have hclosed : (Channel.performMirrored e closing s).2.1.closed = true := by rw [hc]
  obtain ⟨l, t, M, hafter⟩ := final_of_closed e ops hclosed
  rw [hs.object] at hsent
  refine ⟨x, hsent, ?_⟩
  rw [final_cons, hafter]
  exact hruns

/-- Where all requests go well, the object is the mirror's content as the store keeps it. -/
theorem holds_from_closing (b : Backend σ τ) (V : b.View) (limits : Limits)
    (names : ContentType.NameTypes) {s : Mirrored × World (Recorded σ τ)}
    (hs : IsOpenedFor o q os s) (hsync : os.isReadOnly = false)
    (hkeep : os.has .deleteOnClose = false) {closing : Operation}
    (hclosing : closing.isClosing = true) (ops : List Operation)
    (hwell : ∀ x ∈ (final (Channel.performMirrored ⟨b.recorded, limits, names⟩) (closing :: ops)
      s).2.store.log, x.succeeded = true) :
    V.holds (final (Channel.performMirrored ⟨b.recorded, limits, names⟩) (closing :: ops)
        s).2.store.store =
      (V.holds s.2.store.store).setObject o
        (some (V.keep (s.1.syncInfo names) s.1.file.content)) := by
  obtain ⟨x, hsent, hruns⟩ :=
    runs_from_closing ⟨b.recorded, limits, names⟩ hs hsync hkeep hclosing ops
  obtain ⟨hruns, hlog⟩ := hruns.of_recorded
  rw [hlog] at hwell
  obtain ⟨horderly, hnext⟩ :=
    hsent.next (hwell x (by simp)) (V.holds s.2.store.store) V.keep
  rw [V.holds_of_runs hruns fun y hy => List.mem_singleton.mp hy ▸ horderly]
  exact hnext

/-- The service gets one request, which makes the object of the mirror's content. -/
theorem service_from_closing (settings : Settings) (plan : Store.Plan S3.Method S3.CannedReply)
    (streams : Store.StreamPlan) (nesting : Nat) (limits : Limits) (hworkers : 0 < limits.parallelWorkers)
    (names : ContentType.NameTypes) {s : Mirrored × World S3.Service}
    (hs : IsOpenedFor o q os s) (hsync : os.isReadOnly = false)
    (hkeep : os.has .deleteOnClose = false) {closing : Operation}
    (hclosing : closing.isClosing = true) (ops : List Operation) :
    ∃ r, S3.Request.Makes o s.1.file.content
        (S3.Client.writeParams settings (s.1.syncInfo names)) r ∧
      (final (Channel.performMirrored ⟨S3.backend settings plan streams nesting, limits, names⟩)
        (closing :: ops) s).2.store = (S3.Service.call plan streams r s.2.store).2 := by
  obtain ⟨x, hsent, hruns⟩ := runs_from_closing ⟨S3.backend settings plan streams nesting, limits, names⟩
    hs hsync hkeep hclosing ops
  cases hruns with
  | closing => cases hsent
  | call hc rest =>
    cases rest
    cases hsent with
    | stored =>
      refine ⟨_, .put, ?_⟩
      rw [← S3.Client.putObject_state]
      exact (congrArg Prod.snd hc).symm
    | uploaded =>
      refine ⟨_, .file limits.parallelWorkers, ?_⟩
      rw [← S3.Client.uploadFile_state _ hworkers]
      exact (congrArg Prod.snd hc).symm

/-! ## Two runs -/

/-- The run of a session with some threshold: operations, then one that closes the channel, and any
others. -/
abbrev runWith (b : Backend σ τ) (limits : Limits) (names : ContentType.NameTypes)
    (ops : List Operation) (s : Mirrored × World σ) (n : Int) : Mirrored × World σ :=
  final (Channel.performMirrored ⟨b, limits.withThreshold n, names⟩) ops s

/-- **Both ways of sending a mirror back make the same object.** Let a session be opened with options
under which closing sends the mirror back, and let it run with two thresholds. If no request fails, the
two runs leave the same objects, and the session's object is the mirror's content with what is to be
said about it. The service behind a client with any settings gets one request in each run, and both
requests carry the same parameters; where the service does nothing unplanned, it ends up with the same
objects. -/
theorem strategies_agree (limits : Limits) (names : ContentType.NameTypes) (o : ObjectId)
    (q : OpenRequest) {os : OpenOptions} (hos : OpenOptions.ofGiven q.options = .ok os)
    (hsync : os.isReadOnly = false) (hkeep : os.has .deleteOnClose = false)
    {ops : List Operation} (hops : ∀ op ∈ ops, op.isClosing = false ∧ op.sparesMirror = true)
    {closing : Operation} (hclosing : closing.isClosing = true) (ops' : List Operation)
    (n n' : Int) :
    (∀ {σ τ : Type} (b : Backend σ τ) (V : b.View) {m : Mirrored} {W W' : World (Recorded σ τ)},
      Mirrored.open b.recorded limits o q W = (.ok m, W') →
      let c := (final (Channel.performMirrored ⟨b.recorded, limits, names⟩) ops (m, W')).1
      let run := runWith b.recorded limits names (ops ++ closing :: ops') (m, W')
      (∀ x ∈ (run n).2.store.log, x.succeeded = true) →
      (∀ x ∈ (run n').2.store.log, x.succeeded = true) →
      (V.holds (run n).2.store.store).object = (V.holds (run n').2.store.store).object ∧
        ∃ info, Describes names o q c.lastModified c.file.content info ∧
          (V.holds (run n).2.store.store).object o = some (V.keep info c.file.content)) ∧
    (0 < limits.parallelWorkers → ∀ (settings : Settings)
      (plan : Store.Plan S3.Method S3.CannedReply) (streams : Store.StreamPlan) (nesting : Nat)
      {m : Mirrored} {W W' : World S3.Service},
      Mirrored.open (S3.backend settings plan streams nesting) limits o q W = (.ok m, W') →
      let c := (final (Channel.performMirrored ⟨S3.backend settings plan streams nesting, limits, names⟩)
        ops (m, W')).1
      let run := runWith (S3.backend settings plan streams nesting) limits names
        (ops ++ closing :: ops') (m, W')
      ∃ info r r', Describes names o q c.lastModified c.file.content info ∧
        (run n).2.store.calls = W'.store.calls.push (.request r) ∧
        (run n').2.store.calls = W'.store.calls.push (.request r') ∧
        r.Makes o c.file.content (S3.Client.writeParams settings info) ∧
        r'.Makes o c.file.content (S3.Client.writeParams settings info) ∧
        r.params? = r'.params? ∧
        (plan = .none → (run n).2.store.contents = (run n').2.store.contents ∧
          (run n).2.store.contents.object? o =
            some (S3.Service.stored c.file.content (S3.Client.writeParams settings info)))) := by
  have hopen' : ∀ op ∈ ops, op.isClosing = false := fun op hop => (hops op hop).1
  refine ⟨?_, ?_⟩
  · intro σ τ b V m W W' hopen c run hn hn'
    let s := final (Channel.performMirrored ⟨b.recorded, limits, names⟩) ops (m, W')
    have hs : IsOpenedFor o q os s :=
      (isOpenedFor_of_open hos hopen).touched (final_touched _ hops _)
    have hrun (k : Int) : run k = final (Channel.performMirrored
        ⟨b.recorded, limits.withThreshold k, names⟩) (closing :: ops') s := by
      simp only [run, final_append]
      rw [final_withThreshold ⟨b.recorded, limits, names⟩ k hopen']
    have hholds (k : Int) (hk : ∀ x ∈ (run k).2.store.log, x.succeeded = true) :
        V.holds (run k).2.store.store = (V.holds s.2.store.store).setObject o
          (some (V.keep (c.syncInfo names) c.file.content)) := by
      rw [hrun] at hk ⊢
      exact holds_from_closing b V _ names hs hsync hkeep hclosing ops' hk
    refine ⟨by rw [hholds n hn, hholds n' hn'], c.syncInfo names, ?_, ?_⟩
    · rw [← hs.object]
      exact syncInfo_describes names hs.metadata hs.detects
    · rw [hholds n hn, Holdings.setObject_self]
  · intro hworkers settings plan streams nesting m W W' hopen c run
    let e : Channel.Setting S3.Service (S3.Body Store.Stream) :=
      ⟨S3.backend settings plan streams nesting, limits, names⟩
    let s := final (Channel.performMirrored e) ops (m, W')
    have htouched := final_touched e hops (m, W')
    have hs : IsOpenedFor o q os s := (isOpenedFor_of_open hos hopen).touched htouched
    have hstore : s.2.store = W'.store := by
      obtain ⟨l, t, h⟩ := htouched
      exact congrArg (·.2.store) h
    have hrun (k : Int) : ∃ r, S3.Request.Makes o c.file.content
        (S3.Client.writeParams settings (c.syncInfo names)) r ∧
        (run k).2.store = (S3.Service.call plan streams r W'.store).2 := by
      obtain ⟨r, hr, hcall⟩ := service_from_closing settings plan streams nesting
        (limits.withThreshold k) hworkers names hs hsync hkeep hclosing ops'
      refine ⟨r, hr, ?_⟩
      rw [hstore] at hcall
      simp only [run, final_append]
      rw [final_withThreshold e k hopen']
      exact hcall
    obtain ⟨r, hr, hn⟩ := hrun n
    obtain ⟨r', hr', hn'⟩ := hrun n'
    refine ⟨c.syncInfo names, r, r', ?_, ?_, ?_, hr, hr', hr.params.trans hr'.params.symm, ?_⟩
    · rw [← hs.object]
      exact syncInfo_describes names hs.metadata hs.detects
    · rw [hn, S3.Service.call_calls]
    · rw [hn', S3.Service.call_calls]
    · rintro rfl
      rw [hn, hn', S3.Service.call_makes hr, S3.Service.call_makes hr']
      exact ⟨rfl, Table.get?_insert_self _ _ _⟩

/-! ## A session with four bytes -/

def newMirror : OpenRequest where
  options := some [.option .write, .option .truncateExisting]
  metadata := Table.empty.insert "owner" "me"
  lastModified := some { year := 1970, month := 1, day := 1, hour := 0, minute := 0, second := 2,
                         microsecond := 0 }

/-- The channel that is opened so, and the world that it leaves. -/
def opened (W : World σ) : Mirrored × World σ :=
  (ofContent ⟨"bucket", "notes.txt"⟩ newMirror ⟨[.write, .truncateExisting]⟩
      (W.mirrors.fresh none) .empty,
    { W with mirrors := W.mirrors.create none })

def encrypted : Settings := { encrypts := true, encryptionKey := some "key-1" }

def emptyService : World S3.Service := { store := {} }

/-- Four bytes, sent in parallel in one run and with one request in the other. -/
theorem strategies_agree_of_four_bytes :
    let ops := [.write (some ⟨#[1, 2, 3, 4]⟩), .close]
    let memory := runWith inMemory.backend.recorded {} ContentType.ofName ops
      (opened Store.emptyWorld)
    let service := runWith (S3.backend encrypted .none (fun _ => {}) 985) {} ContentType.ofName ops
      (opened emptyService)
    (memory 3).2.store.store.contents.object? = (memory 4).2.store.store.contents.object? ∧
      ((memory 3).2.store.store.contents.object? ⟨"bucket", "notes.txt"⟩).map
        (fun x => (x.data, x.contentType, x.metadata.entries)) =
          some (⟨#[1, 2, 3, 4]⟩, some "text/plain",
            [("owner", "me"), ("s3channels-last-modified", "2000")]) ∧
      ∃ r r', (service 3).2.store.calls = #[.request r] ∧
        (service 4).2.store.calls = #[.request r'] ∧ r.params? = r'.params? := by
  intro ops memory service
  have hos : OpenOptions.ofGiven newMirror.options = .ok ⟨[.write, .truncateExisting]⟩ := rfl
  have hops : ∀ op ∈ [Operation.write (some ⟨#[1, 2, 3, 4]⟩)],
      op.isClosing = false ∧ op.sparesMirror = true := by decide
  have hclosing : Operation.close.isClosing = true := rfl
  obtain ⟨hmemory, hservice⟩ := strategies_agree {} ContentType.ofName ⟨"bucket", "notes.txt"⟩
    newMirror hos rfl rfl hops hclosing [] 3 4
  have hopen : Mirrored.open inMemory.backend.recorded {} ⟨"bucket", "notes.txt"⟩ newMirror
      Store.emptyWorld = (.ok (opened Store.emptyWorld).1, (opened Store.emptyWorld).2) := rfl
  obtain ⟨hsame, -⟩ := hmemory inMemory.backend (Store.memoryView _ _) hopen
    (by decide +kernel) (by decide +kernel)
  have hopen' : Mirrored.open (S3.backend encrypted .none (fun _ => {}) 985) {} ⟨"bucket", "notes.txt"⟩
      newMirror emptyService = (.ok (opened emptyService).1, (opened emptyService).2) := rfl
  obtain ⟨info, r, r', -, hr, hr', -, -, hparams, -⟩ :=
    hservice (by decide) encrypted .none (fun _ => {}) 985 hopen'
  exact ⟨hsame, by decide +kernel, r, r', hr, hr', hparams⟩

end Mirrored

end ObjectChannel
