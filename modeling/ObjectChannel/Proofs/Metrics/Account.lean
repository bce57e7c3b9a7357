/-
The counters account for exactly what was transferred: over any commands, with any channels and any
faults, each of them has gone up by what it owes to what passed, to what the reads of readers returned, to
what was fetched into mirrors, and to the mirrors that were sent back or failed to be.
-/
import ObjectChannel.Proofs.Classification
import ObjectChannel.Proofs.Metrics.Counter
import ObjectChannel.Proofs.Mirrored.Requests
import ObjectChannel.Proofs.Session.Passage

namespace ObjectChannel

open ChannelAction

variable {σ τ : Type}

/-! ## Mirrored channels -/

namespace Mirrored

variable {b : Backend σ τ} {limits : Limits} {names : ContentType.NameTypes} {c c' : Mirrored}
  {W W' : World (Recorded σ τ)} {M M' : Mirrors} {es : List (Exchange τ)}

/-- What is owed to sending a mirror back, by its size; a mirror file that is gone is not sent. -/
def syncOwes (limits : Limits) (c : Mirrored) (M : Mirrors) (k : Counter) : Nat :=
  if M.present.contains c.mirror then
    if limits.parallelThreshold < c.file.content.size then if k = .parallelSyncs then 1 else 0
    else if k = .putSyncs then 1 else 0
  else 0

theorem SyncMove.owes {r : Except Failure Unit} (h : SyncMove limits names c M es r c')
    (k : Counter) : (es.map (Exchange.synchronises · k)).sum = syncOwes limits c M k := by
  cases h with
  | lost hm =>
    simp only [syncOwes, hm, Bool.false_eq_true, ite_false]
    rfl
  | stored hm hs | notStored hm hs =>
    have hs : ¬limits.parallelThreshold < c.file.content.size := by omega
    simp only [syncOwes, hm, hs, ite_true, ite_false]
    cases k <;> rfl
  | uploaded hm hs =>
    simp only [syncOwes, hm, hs, ite_true]
    cases k <;> rfl

theorem putMirror_balance (info : ObjectInfo) (k : Counter) :
    balance k (putMirror b.recorded info (c, W)).2.2 =
      balance k W + (if k = .putSyncs then 1 else 0 : Nat) := by
  let W₁ := (W.logged (.synchronising c.file.content.size c.object)).counted fun m =>
    { m with putSyncs := m.putSyncs + 1 }
  have hcounted : balance k W₁ = balance k W + (if k = .putSyncs then 1 else 0 : Nat) :=
    balance_counted k _ fun m => by cases k <;> rfl
  refine Eq.trans ?_ hcounted
  show balance k ((_ >>= _ : Step (Recorded σ τ) Unit) (c, W₁)).2.2 = balance k W₁
  exact (settles_balance b k).counted_keeps (fun _ _ => rfl) (fun _ _ => rfl) (fun _ => .fail _)
    (fun _ _ => rfl) (c, W₁)

theorem uploadMirror_balance (info : ObjectInfo) (k : Counter) :
    balance k (uploadMirror b.recorded limits info (c, W)).2.2 =
      balance k W + (if k = .parallelSyncs then 1 else 0 : Nat) := by
  let W₁ := (W.logged (.synchronisingInParallel c.file.content.size c.object
    limits.parallelWorkers)).counted fun m => { m with parallelSyncs := m.parallelSyncs + 1 }
  have hcounted : balance k W₁ = balance k W + (if k = .parallelSyncs then 1 else 0 : Nat) :=
    balance_counted k _ fun m => by cases k <;> rfl
  have hsettled := (settles_balance b k).answered W₁ (.uploadFile c.object (W.mirrors.path c.mirror)
    c.file.content limits.parallelWorkers info)
  refine Eq.trans ?_ hcounted
  rw [uploadMirror_apply, World.request_apply]
  rcases hc : (b.recorded.call (.uploadFile c.object (W.mirrors.path c.mirror) c.file.content
    limits.parallelWorkers info) W₁.store).1 with e | u <;> rw [hc] at hsettled <;>
    exact hsettled

theorem sync_balance (k : Counter) :
    balance k (sync b.recorded limits names (c, W)).2.2 =
      balance k W + (syncOwes limits c W.mirrors k : Nat) := by
  simp only [sync, Action.bind_apply, this_apply, Action.get_apply, syncOwes]
  cases hm : W.hasMirror c.mirror with
  | false =>
    have hm : W.mirrors.present.contains c.mirror = false := hm
    simp only [hm]
    simp
  | true =>
    have hm : W.mirrors.present.contains c.mirror = true := hm
    simp only [hm, Bool.not_true, Bool.false_eq_true, ite_false, ite_true]
    by_cases hs : limits.parallelThreshold < c.file.content.size
    · simp only [hs, ite_true]
      exact uploadMirror_balance _ k
    · simp only [hs, ite_false]
      exact putMirror_balance _ k

/-- What is owed to closing a channel: nothing, unless its mirror is to be sent back. -/
def closeOwes (limits : Limits) (c : Mirrored) (M : Mirrors) (k : Counter) : Nat :=
  if c.closed then 0
  else if c.options.has .deleteOnClose then 0
  else if c.options.isReadOnly then 0
  else syncOwes limits { c with closed := true } M k

theorem CloseMove.owes {r : Except Failure Unit} (h : CloseMove limits names c M es r c' M')
    (k : Counter) : (es.map (Exchange.synchronises · k)).sum = closeOwes limits c M k := by
  cases h with
  | again hc =>
    simp only [closeOwes, hc, ite_true]
    rfl
  | deleted hc hd =>
    simp only [closeOwes, hc, hd, Bool.false_eq_true, ite_false, ite_true]
    rfl
  | unchanged hc hd hr =>
    simp only [closeOwes, hc, hd, hr, Bool.false_eq_true, ite_false, ite_true]
    rfl
  | synced hc hd hr sync =>
    simp only [closeOwes, hc, hd, hr, Bool.false_eq_true, ite_false]
    exact sync.owes k

theorem close_balance (k : Counter) :
    balance k (Mirrored.close b.recorded limits names (c, W)).2.2 =
      balance k W + (closeOwes limits c W.mirrors k : Nat) := by
  cases hc : c.closed with
  | true =>
    simp only [Mirrored.close, Action.bind_apply, this_apply, closeOwes, hc, ite_true]
    exact (Int.add_zero _).symm
  | false =>
    simp only [close_of_open hc, finish, closeOwes, hc, Bool.false_eq_true, ite_false]
    show balance k (_ : Except Failure Unit × Mirrored × World (Recorded σ τ)).2.2 = _
    split
    · refine Eq.trans ?_ (Int.add_zero _).symm
      simp only [deleteObject, Action.bind_apply, this_apply, Action.mapFailure_apply, world_apply,
        World.request_apply]
      exact (settles_balance b k).of_uncounted fun _ => rfl
    · split
      · exact (Int.add_zero _).symm
      · exact sync_balance k

/-- **What a mirrored channel owes is what it sends back**: nothing else that it does is counted, and each
attempt at that is. -/
theorem performMirrored_balance (e : Channel.Setting σ τ) (op : Operation)
    (s : Mirrored × World (Recorded σ τ)) :
    ∃ es, (Channel.performMirrored e.recorded op s).2.2.store.log = s.2.store.log ++ es ∧
      ∀ k, balance k (Channel.performMirrored e.recorded op s).2.2 =
        balance k s.2 + ((es.map (Exchange.synchronises · k)).sum : Nat) := by
  cases hop : op.isClosing with
  | false =>
    obtain ⟨_, _, _, hm⟩ := performMirrored_retouched (b := e.recorded) hop s
    rw [hm]
    exact ⟨[], (List.append_nil _).symm, fun _ => (Int.add_zero _).symm⟩
  | true =>
    obtain ⟨es, r, hmove, -, hrun⟩ := performMirrored_close e.recorded hop s
    refine ⟨es, hrun.of_recorded.2, fun k => ?_⟩
    rw [hmove.owes k]
    cases op with
    | close | leave =>
      simp only [Channel.performMirrored, Action.map_state]
      exact close_balance k
    | _ => cases hop

/-! ## Opening -/

theorem probe_keeps (b : Backend σ τ) (o : ObjectId) (k : Counter) :
    (probe b.recorded o).Keeps (balance k) :=
  .bind (.mapFailure ((settles_balance b k).request_keeps fun _ _ => rfl) _) fun _ => .pure _

theorem existing_keeps (b : Backend σ τ) (o : ObjectId) (os : OpenOptions) (k : Counter) :
    (existing b.recorded o os).Keeps (balance k) := by
  unfold existing
  split
  · exact .pure _
  · refine .bind (probe_keeps b o k) fun found => ?_
    split
    · exact .fail _
    · split
      · exact .fail _
      · exact .pure _

/-- Fetching an object counts what it has brought, if it goes well. -/
theorem download_balance (limits : Limits) (o : ObjectId) (m : Mirror) (k : Counter) :
    balance k (download b.recorded limits o m W).2 = balance k W +
      (if k = .mirroredBytes then
        ((download b.recorded limits o m W).1.map (·.size)).toOption.getD 0 else 0 : Nat) := by
  have hfetch : (fetchContent b.recorded limits o).Keeps (balance k) := by
    refine .bind ((settles_balance b k).request_keeps fun _ _ => rfl) fun t => ?_
    split
    · exact .fail _
    · exact .ensuring (.ofExcept _) fun W => (settles_balance b k).closed W _
  have hcopied := hfetch.mapFailure (.transferFailed .download o) (W.logged (.mirroring o (W.mirrors.path m)))
  simp only [download, Action.bind_apply, Action.get_apply, World.log_apply]
  rcases hc : (fetchContent b.recorded limits o).mapFailure _ _ with ⟨e | content, W'⟩ <;>
    rw [hc] at hcopied
  · refine hcopied.trans ?_
    simp [Except.map, Except.toOption]
    rfl
  · refine (balance_counted k W' fun m => ?_).trans (congrArg (· + _) hcopied)
    cases k <;> rfl

/-- The size of the mirror of a channel, if there is one. -/
def openedSize (r : Except Failure Mirrored) : Nat := (r.map (·.file.content.size)).toOption.getD 0

/-- **Opening a mirrored channel counts what it has fetched**, if it goes well. -/
theorem open_balance (o : ObjectId) (q : OpenRequest) (k : Counter) :
    balance k (Mirrored.open b.recorded limits o q W).2 = balance k W +
      (if k = .mirroredBytes then openedSize (Mirrored.open b.recorded limits o q W).1 else 0 : Nat) := by
  have hnone {x : Int} : x = x + (if k = .mirroredBytes then 0 else 0 : Nat) := by simp
  cases hos : OpenOptions.ofGiven q.options with
  | error e =>
    simp only [Mirrored.open, Action.bind_apply, Action.ofExcept_apply, hos]
    exact hnone
  | ok os =>
    have hkept := existing_keeps b o os k W
    rcases hp : existing b.recorded o os W with ⟨found, W₁⟩
    rw [hp] at hkept
    simp only [Mirrored.open, Action.bind_apply, Action.ofExcept_apply, hos, hp, ← hkept]
    cases found with
    | error e => exact hnone
    | ok found =>
      cases hd : q.directory.all W₁.mirrors.hasDirectory with
      | false =>
        simp only [World.createMirror, hd]
        exact hnone
      | true =>
        simp only [World.createMirror_of_directory hd, Action.onFailure_apply]
        cases found with
        | false =>
          show balance k W₁ = balance k W₁ + (if k = .mirroredBytes then
            (LocalFile.opened os .empty).content.size else 0 : Nat)
          rw [LocalFile.opened_content fun _ => rfl]
          exact hnone
        | true =>
          obtain ⟨es, hprobe, -⟩ := existing_move hp
          have hdownload := download_balance (b := b) limits
            (W := { W₁ with mirrors := W₁.mirrors.create q.directory }) o (W₁.mirrors.fresh q.directory) k
          rcases hf : download b.recorded limits o (W₁.mirrors.fresh q.directory)
            { W₁ with mirrors := W₁.mirrors.create q.directory } with ⟨e | content, W₂⟩ <;>
            rw [hf] at hdownload <;> simp only [ite_true, hf]
          · exact hdownload
          · -- an object that is fetched is not to be emptied
            have hkeeps (h : os.truncates = true) : content = .empty := by
              cases (hprobe.of_truncate (Bool.and_eq_true_iff.mp h).2).2
            refine hdownload.trans ?_
            show _ = balance k W₁ + (if k = .mirroredBytes then
              (LocalFile.opened os content).content.size else 0 : Nat)
            rw [LocalFile.opened_content hkeeps]
            rfl

end Mirrored

/-! ## Sessions -/

namespace Session

variable {service : Service σ τ} {limits : Limits} {names : ContentType.NameTypes}

/-- How many bytes a step has placed in a mirror: those that the channel it has opened starts with. -/
def Step.fetched (service : Service σ τ) (limits : Limits) (names : ContentType.NameTypes)
    (t : Step σ) : Nat :=
  match t.command, t.outcome with
  | .openChannel name .., .ok _ =>
    match (t.after service limits names).channels.get? name with
    | some (.mirrored m) => m.file.content.size
    | _ => 0
  | _, _ => 0

/-- What is owed to a step besides what is owed to the exchanges in it: what it has fetched into a mirror,
what the reads into a destination that it is made of return, and the attempts at sending a mirror back. -/
def Step.owes (service : Service σ τ) (limits : Limits) (names : ContentType.NameTypes)
    (t : Step (Recorded σ τ)) (k : Counter) : Nat :=
  match t.command with
  | .openChannel .. => if k = .mirroredBytes then t.fetched service.recorded limits names else 0
  | .use name op =>
    match t.before.channels.get? name with
    | some (.reader r) =>
      if k = .rangeBytes then
        (Reader.counts service.recorded.backend limits (r, t.before.world) op).sum else 0
    | some (.mirrored _) =>
      ((t.added service.recorded limits names (·.world.store.log)).map (Exchange.synchronises · k)).sum
    | _ => 0
  | _ => 0

theorem use_balance (s : Session (Recorded σ τ)) (name : String) (op : Operation) (k : Counter) :
    balance k (perform service.recorded limits names (.use name op) s).2.world = balance k s.world +
      (Step.owes service limits names
        ⟨.use name op, s, (perform service.recorded limits names (.use name op) s).1⟩ k : Nat) := by
  let e := settingOf service limits names
  show balance k (use e.recorded name op s).2.world = _
  cases hc : s.channels.get? name with
  | none => simp only [use, Step.owes, hc, Nat.cast_zero, Int.add_zero]
  | some c =>
    have huse := use_of_channel e.recorded op hc
    rw [huse]
    cases c with
    | writer w =>
      simp only [Step.owes, hc, Nat.cast_zero, Int.add_zero]
      exact Writer.performWriter_keeps (settles_balance e.backend k) e.names op (w, s.world)
    | reader r =>
      simp only [Step.owes, hc]
      exact Reader.performReader_balance e op k (r, s.world)
    | mirrored m =>
      obtain ⟨es, hlog, hbalance⟩ := Mirrored.performMirrored_balance e op (m, s.world)
      have hadded (r : Except Failure Answer) : Step.added service.recorded limits names
          (·.world.store.log) ⟨.use name op, s, r⟩ = es := by
        refine Step.added_eq ?_
        show (use e.recorded name op s).2.world.store.log = _
        rw [huse]
        exact hlog
      simp only [Step.owes, hc, hadded]
      exact hbalance k

theorem openChannel_balance (s : Session (Recorded σ τ)) (name key : String) (q : OpenRequest)
    (k : Counter) :
    balance k (perform service.recorded limits names (.openChannel name key q) s).2.world =
      balance k s.world + (Step.owes service limits names
        ⟨.openChannel name key q, s,
          (perform service.recorded limits names (.openChannel name key q) s).1⟩ k : Nat) := by
  have hopen : balance k (service.recorded.openChannel limits key q s.world).2 = balance k s.world +
      (if k = .mirroredBytes then
        Mirrored.openedSize (service.recorded.openChannel limits key q s.world).1 else 0 : Nat) := by
    cases ho : service.recorded.objectId key with
    | error e =>
      simp only [Service.openChannel, Action.bind_apply, Action.ofExcept_apply, ho]
      simp [Mirrored.openedSize, Except.map, Except.toOption]
    | ok o =>
      simp only [Service.openChannel, Action.bind_apply, Action.ofExcept_apply, ho]
      exact Mirrored.open_balance o _ k
  simp only [perform, Action.map_apply, Step.owes, Step.fetched, Step.after, enlist_apply]
  rcases hx : service.recorded.openChannel limits key q s.world with ⟨_ | m, W⟩ <;> rw [hx] at hopen
  · exact hopen
  · simp only [Except.map, Table.get?_insert_self]
    exact hopen

/-- **Every command leaves each balance with what is owed to it.** -/
theorem perform_balance (service : Service σ τ) (limits : Limits) (names : ContentType.NameTypes)
    (s : Session (Recorded σ τ)) (c : Command) (k : Counter) :
    balance k (perform service.recorded limits names c s).2.world = balance k s.world +
      (Step.owes service limits names ⟨c, s, (perform service.recorded limits names c s).1⟩ k : Nat) := by
  cases c with
  | openChannel name key q => exact openChannel_balance s name key q k
  | use name op => exact use_balance s name op k
  | openWriter | openReader =>
    simp only [perform, enlist_store, Action.map_apply]
    exact (Int.add_zero _).symm
  | objectId key =>
    refine Eq.trans ?_ (Int.add_zero _).symm
    rw [perform, Action.map_state]
    rfl
  | objectExists key =>
    refine Eq.trans ?_ (Int.add_zero _).symm
    rw [perform, Action.map_state]
    exact (Action.Keeps.ofExcept _).bind (fun o => Mirrored.probe_keeps service.backend o k) s.world
  | delete key =>
    refine Eq.trans ?_ (Int.add_zero _).symm
    rw [perform, Action.map_state (f := fun _ => Answer.none)]
    have hdelete (o : ObjectId) : (World.request service.backend.recorded (.delete o)).Keeps (balance k) :=
      (settles_balance service.backend k).request_keeps fun _ _ => rfl
    exact (Action.Keeps.ofExcept _).bind (fun o => (hdelete o).mapFailure _) s.world
  | exposeMetrics =>
    refine Eq.trans ?_ (Int.add_zero _).symm
    rw [perform, Action.map_state]
    show balance k (service.recorded.exposeMetrics s.world).2 = _
    obtain ⟨_, _, hleaves⟩ := exposeMetrics_leaves service.recorded s.world
    rw [hleaves]
    rfl
  | bucket | backend => exact (Int.add_zero _).symm

theorem run_balance (service : Service σ τ) (limits : Limits) (names : ContentType.NameTypes)
    (cs : List Command) (p : Told (Recorded σ τ)) (k : Counter) :
    balance k (run service.recorded limits names cs p).2.world -
        (((run service.recorded limits names cs p).1.map (Step.owes service limits names · k)).sum : Nat) =
      balance k p.2.world - ((p.1.map (Step.owes service limits names · k)).sum : Nat) := by
  induction cs generalizing p with
  | nil => rfl
  | cons c cs ih =>
    refine (ih _).trans ?_
    have hstep := perform_balance service limits names p.2 c k
    simp only [List.map_cons, List.sum_cons]
    omega

/-- The record of a run goes on from the record before it, with all that its steps have added. -/
theorem run_recorded (service : Service σ τ) (limits : Limits) (names : ContentType.NameTypes)
    (cs : List Command) (s : Session (Recorded σ τ)) :
    let told := run service.recorded limits names cs ([], s)
    let es := told.1.reverse.flatMap (Step.added service.recorded limits names (·.world.store.log))
    service.backend.Runs s.world.store.store es told.2.world.store.store ∧
      told.2.world.store.log = s.world.store.log ++ es := by
  let Leads (s : Session (Recorded σ τ)) (es : List (Exchange τ)) (s' : Session (Recorded σ τ)) : Prop :=
    service.backend.Runs s.world.store.store es s'.world.store.store ∧
      s'.world.store.log = s.world.store.log ++ es
  have hstep (s : Session (Recorded σ τ)) (c : Command) (es : List (Exchange τ))
      (s' : Session (Recorded σ τ)) (h : Leads (perform service.recorded limits names c s).2 es s') :
      Leads s (Step.added service.recorded limits names (·.world.store.log)
        ⟨c, s, (perform service.recorded limits names c s).1⟩ ++ es) s' := by
    obtain ⟨es', -, hrun⟩ := perform_passage service.recorded limits names s c
    obtain ⟨hruns, hlog⟩ := hrun.of_recorded
    rw [Step.added_eq hlog]
    exact ⟨hruns.append h.1, by rw [h.2, hlog, List.append_assoc]⟩
  obtain ⟨steps, hsteps, hleads⟩ := run_leads service.recorded limits names
    (Step.added service.recorded limits names (·.world.store.log)) Leads (fun s => ⟨.nil, (List.append_nil _).symm⟩) hstep cs [] s
  rw [List.append_nil] at hsteps
  simp only [hsteps]
  exact hleads

/-- What the counters say after a run, over a store that may fail at any request and any stream. -/
structure Accounts (service : Service σ τ) (limits : Limits) (names : ContentType.NameTypes)
    (s : Session (Recorded σ τ)) (told : Told (Recorded σ τ)) (es : List (Exchange τ)) : Prop where
  /-- This is all that has passed, in order and with what came of it. -/
  passed : service.backend.Runs s.world.store.store es told.2.world.store.store
  recorded : told.2.world.store.log = s.world.store.log ++ es
  /-- Every counter has gone up by what it owes to what has passed and to the steps of the run. -/
  counted : ∀ k, told.2.world.metrics.value k = s.world.metrics.value k +
    (es.map (Exchange.owes · k)).sum + (told.1.map (Step.owes service limits names · k)).sum

/-- **The counters account for exactly what was transferred**, whatever was done with however many
channels, and whatever came of it. -/
theorem counters_account (service : Service σ τ) (limits : Limits) (names : ContentType.NameTypes)
    (s : Session (Recorded σ τ)) (cs : List Command) :
    let told := run service.recorded limits names cs ([], s)
    Accounts service limits names s told
      (told.1.reverse.flatMap (Step.added service.recorded limits names (·.world.store.log))) := by
  obtain ⟨hruns, hlog⟩ := run_recorded service limits names cs s
  refine ⟨hruns, hlog, fun k => ?_⟩
  have hbalance := run_balance service limits names cs ([], s) k
  simp only [balance, hlog, List.map_append, List.sum_append, List.map_nil, List.sum_nil] at hbalance
  omega

/-- A large object that is written, a mirror that is sent back as a whole, and one that is sent back in
parallel. -/
def transfers : List Command :=
  [.openWriter "w" "large" none .empty, .use "w" (.write (some ⟨#[1, 2, 3]⟩)),
    .openChannel "m" "small" { options := some [.option .write, .option .create] },
    .use "m" (.write (some ⟨#[1]⟩)), .use "m" .close,
    .openChannel "m" "mirrored" { options := some [.option .write, .option .create] },
    .use "m" (.write (some ⟨#[1, 2]⟩)), .use "m" .close]

/-- Over the failing store only the small mirror arrives. The abort and both attempts at sending a mirror
back count all the same. -/
example : [Counter.multipartBytes, .aborts, .putBytes, .parallelBytes, .putSyncs, .parallelSyncs].map
    (run (Service.mk {} "bucket" failingStore.backend).recorded
      { minPartSize := 2, parallelThreshold := 1 } ContentType.ofName transfers
      ([], { world := { store := { store := {} } } })).2.world.metrics.value = [0, 1, 1, 0, 1, 1] := by
  decide +kernel

end Session

end ObjectChannel
