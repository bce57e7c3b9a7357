/-
What opening and closing a mirrored channel can come to: the requests that are made, in order and
with what came of each, the outcome, and the mirror files that are left. As with the moves of a
writer, the store is not mentioned.
-/
import ObjectChannel.Proofs.Run

namespace ObjectChannel

namespace Mirrors

/-- The next mirror in a directory. -/
def fresh (M : Mirrors) (directory : Option String) : Mirror := ⟨M.next, directory⟩

/-- With one more mirror. -/
def create (M : Mirrors) (directory : Option String) : Mirrors :=
  { M with present := M.present ++ [M.fresh directory], next := M.next + 1 }

def remove (M : Mirrors) (m : Mirror) : Mirrors :=
  { M with present := M.present.filter (· != m) }

end Mirrors

theorem World.createMirror_of_directory {σ : Type} {directory : Option String} {W : World σ}
    (h : directory.all W.mirrors.hasDirectory = true) :
    World.createMirror directory W =
      (.ok (W.mirrors.fresh directory), { W with mirrors := W.mirrors.create directory }) := by
  simp only [createMirror, h]
  rfl

namespace Mirrored

open ChannelAction

variable {σ τ : Type}

/-! ## Moves -/

/-- What opening makes of the answer to a probe. -/
def verdict (o : ObjectId) (os : OpenOptions) (found : Bool) : Except Failure Bool :=
  if found && os.has .createNew then .error (.ofChannel (.targetExists o))
  else if !found && !os.creates then .error (.ofChannel (.targetMissing o))
  else .ok found

theorem verdict_eq_ok {o : ObjectId} {os : OpenOptions} {found found' : Bool}
    (h : verdict o os found = .ok found') : found' = found := by
  unfold verdict at h
  split at h
  · cases h
  · split at h <;> cases h
    rfl

inductive ProbeMove (o : ObjectId) (os : OpenOptions) :
    List (Exchange τ) → Except Failure Bool → Prop where
  | unasked (h : os.has .truncateExisting = true) : ProbeMove o os [] (.ok false)
  | answered (h : os.has .truncateExisting = false) (x : ObjectHead) :
    ProbeMove o os [.call (.head o) (.ok x)] (verdict o os x.found)
  | failed (h : os.has .truncateExisting = false) (e : Failure) :
    ProbeMove o os [.call (.head o) (.error e)] (.error (e.raisedIn .probe o))

inductive FetchMove (b : Backend σ τ) (chunk : Nat) (o : ObjectId) :
    List (Exchange τ) → Except Failure Bytes → Prop where
  | refused (e : Failure) :
    FetchMove b chunk o [.call (.get o none) (.error e)] (.error (e.raisedIn .download o))
  | endless {t : τ} (h : b.copyStream chunk t .empty = none) :
    FetchMove b chunk o [.call (.get o none) (.ok t)] (.error (.transferFailed .download o .endless))
  | copied {t t' : τ} {copy : Except Failure Bytes}
    (h : b.copyStream chunk t .empty = some (copy, t')) (closed : Except Failure Unit) :
    FetchMove b chunk o [.call (.get o none) (.ok t), .closing t' closed]
      ((do closed; copy).mapError (Failure.raisedIn .download o))

/-- The channel that opening makes, with a mirror of the given content. -/
def ofContent (o : ObjectId) (q : OpenRequest) (os : OpenOptions) (m : Mirror)
    (content : Bytes) : Mirrored where
  object := o
  options := os
  metadata := q.metadata
  detects := q.detects
  lastModified := q.lastModified
  mirror := m
  file := .opened os content

inductive OpenMove (b : Backend σ τ) (limits : Limits) (o : ObjectId) (q : OpenRequest)
    (M : Mirrors) : List (Exchange τ) → Except Failure Mirrored → Mirrors → Prop where
  | badOptions {e} (h : OpenOptions.ofGiven q.options = .error e) :
    OpenMove b limits o q M [] (.error e) M
  | unfit {os es e} (h : OpenOptions.ofGiven q.options = .ok os)
    (probe : ProbeMove o os es (.error e)) : OpenMove b limits o q M es (.error e) M
  | noDirectory {os es found} (h : OpenOptions.ofGiven q.options = .ok os)
    (probe : ProbeMove o os es (.ok found)) (hd : q.directory.all M.hasDirectory = false) :
    OpenMove b limits o q M es (.error (.system .missing)) M
  | made {os es} (h : OpenOptions.ofGiven q.options = .ok os)
    (probe : ProbeMove o os es (.ok false)) (hd : q.directory.all M.hasDirectory = true) :
    OpenMove b limits o q M es (.ok (ofContent o q os (M.fresh q.directory) .empty))
      (M.create q.directory)
  | fetched {os es es' content} (h : OpenOptions.ofGiven q.options = .ok os)
    (probe : ProbeMove o os es (.ok true)) (hd : q.directory.all M.hasDirectory = true)
    (fetch : FetchMove b limits.downloadChunk o es' (.ok content)) :
    OpenMove b limits o q M (es ++ es')
      (.ok (ofContent o q os (M.fresh q.directory) content)) (M.create q.directory)
  | notFetched {os es es' e} (h : OpenOptions.ofGiven q.options = .ok os)
    (probe : ProbeMove o os es (.ok true)) (hd : q.directory.all M.hasDirectory = true)
    (fetch : FetchMove b limits.downloadChunk o es' (.error e)) :
    OpenMove b limits o q M (es ++ es') (.error e)
      ((M.create q.directory).remove (M.fresh q.directory))

inductive SyncMove (limits : Limits) (names : ContentType.NameTypes) (c : Mirrored)
    (M : Mirrors) : List (Exchange τ) → Except Failure Unit → Mirrored → Prop where
  | lost (h : M.present.contains c.mirror = false) :
    SyncMove limits names c M [] (.error (.system .missing)) c
  | stored (h : M.present.contains c.mirror = true)
    (hs : c.file.content.size ≤ limits.parallelThreshold) (reply : PutResult) :
    SyncMove limits names c M
      [.call (.put c.object c.file.content c.file.content.size (c.syncInfo names)) (.ok reply)]
      (.ok ()) { c with putResult := some reply }
  | notStored (h : M.present.contains c.mirror = true)
    (hs : c.file.content.size ≤ limits.parallelThreshold) (e : Failure) :
    SyncMove limits names c M
      [.call (.put c.object c.file.content c.file.content.size (c.syncInfo names)) (.error e)]
      (.error (e.raisedIn .put c.object)) c
  | uploaded (h : M.present.contains c.mirror = true)
    (hs : limits.parallelThreshold < c.file.content.size) (x : Except Failure Unit) :
    SyncMove limits names c M
      [.call (.uploadFile c.object (M.path c.mirror) c.file.content limits.parallelWorkers
        (c.syncInfo names)) x]
      (x.mapError (uploadFailed c.object)) c

inductive CloseMove (limits : Limits) (names : ContentType.NameTypes) (c : Mirrored)
    (M : Mirrors) : List (Exchange τ) → Except Failure Unit → Mirrored → Mirrors → Prop where
  | again (h : c.closed = true) : CloseMove limits names c M [] (.ok ()) c M
  | deleted (h : c.closed = false) (hd : c.options.has .deleteOnClose = true)
    (x : Except Failure Unit) :
    CloseMove limits names c M [.call (.delete c.object) x]
      (x.mapError (Failure.raisedIn .delete c.object)) { c with closed := true }
      (M.remove c.mirror)
  | unchanged (h : c.closed = false) (hd : c.options.has .deleteOnClose = false)
    (hr : c.options.isReadOnly = true) :
    CloseMove limits names c M [] (.ok ()) { c with closed := true } (M.remove c.mirror)
  | synced {es r c'} (h : c.closed = false) (hd : c.options.has .deleteOnClose = false)
    (hr : c.options.isReadOnly = false)
    (sync : SyncMove limits names { c with closed := true } M es r c') :
    CloseMove limits names c M es r c' (M.remove c.mirror)

/-! ## Every opening and every closing is a move -/

variable {b : Backend σ τ} {limits : Limits} {names : ContentType.NameTypes} {o : ObjectId}
  {W W' : World σ}

theorem existing_of_probe {os : OpenOptions} (ht : os.has .truncateExisting = false) {found : Bool}
    (h : probe b o W = (.ok found, W')) : existing b o os W = (verdict o os found, W') := by
  simp only [existing, ht, Bool.false_eq_true, ite_false, Action.bind_apply, h, verdict]
  split
  · rfl
  · split <;> rfl

theorem existing_move {os : OpenOptions} {r : Except Failure Bool}
    (h : existing b o os W = (r, W')) :
    ∃ es, ProbeMove o os es r ∧ b.Runs W.store es W'.store ∧ W'.mirrors = W.mirrors := by
  cases ht : os.has .truncateExisting with
  | true =>
    simp only [existing, ht, ite_true] at h
    cases h
    exact ⟨[], .unasked ht, .nil, rfl⟩
  | false =>
    rcases hc : b.call (.head o) W.store with ⟨x, s⟩
    have hrun : b.Runs W.store [.call (.head o) x] (W.answered b (.head o)).store := .answered hc
    have hmirrors := W.answered_mirrors b (.head o)
    cases x with
    | error e =>
      simp only [existing, probe, ht, Bool.false_eq_true, ite_false, Action.bind_apply,
        Action.mapFailure_apply, World.request_apply, hc] at h
      cases h
      exact ⟨_, .failed ht e, hrun, hmirrors⟩
    | ok x =>
      have hp : probe b o W = (.ok x.found, W.answered b (.head o)) := by
        simp only [probe, Action.bind_apply, Action.mapFailure_apply, World.request_apply, hc]
        rfl
      rw [existing_of_probe ht hp] at h
      cases h
      exact ⟨_, .answered ht x, hrun, hmirrors⟩

theorem download_move {m : Mirror} {r : Except Failure Bytes}
    (h : download b limits o m W = (r, W')) :
    ∃ es, FetchMove b limits.downloadChunk o es r ∧ b.Runs W.store es W'.store ∧
      W'.mirrors = W.mirrors := by
  rcases hc : b.call (.get o none) W.store with ⟨x, s⟩
  simp only [download, fetchContent, Action.bind_apply, Action.get_apply, World.log_apply,
    Action.mapFailure_apply, World.request_apply, World.logged_store, hc] at h
  cases x with
  | error e =>
    cases h
    exact ⟨_, .refused e, .answered hc, by simp⟩
  | ok t =>
    cases hcopy : b.copyStream limits.downloadChunk t .empty with
    | none =>
      simp only [hcopy] at h
      cases h
      exact ⟨_, .endless hcopy, .answered hc, by simp⟩
    | some copied =>
      obtain ⟨copy, t'⟩ := copied
      rcases hclose : b.close t' s with ⟨closed, s'⟩
      simp only [hcopy, Action.ensuring_eq, Action.ofExcept_apply, World.onStore_apply,
        World.answered_store, World.logged_store, hc, hclose] at h
      have hm := FetchMove.copied (b := b) (o := o) hcopy closed
      have hrun : b.Runs W.store [.call (.get o none) (.ok t), .closing t' closed] s' :=
        .call hc (.closing hclose .nil)
      unfold Failure.raisedIn at hm
      generalize Except.mapError _ _ = x at h hm
      cases x <;> cases h <;> exact ⟨_, hm, hrun, World.answered_mirrors ..⟩

theorem open_move {q : OpenRequest} {r : Except Failure Mirrored}
    (h : Mirrored.open b limits o q W = (r, W')) :
    ∃ es, OpenMove b limits o q W.mirrors es r W'.mirrors ∧ b.Runs W.store es W'.store := by
  cases hos : OpenOptions.ofGiven q.options with
  | error e =>
    simp only [Mirrored.open, Action.bind_apply, Action.ofExcept_apply, hos] at h
    cases h
    exact ⟨[], .badOptions hos, .nil⟩
  | ok os =>
    rcases hp : existing b o os W with ⟨found, W₁⟩
    obtain ⟨es, hprobe, hrun, hmirrors⟩ := existing_move hp
    rw [← hmirrors]
    simp only [Mirrored.open, Action.bind_apply, Action.ofExcept_apply, hos, hp] at h
    cases found with
    | error e =>
      cases h
      exact ⟨es, .unfit hos hprobe, hrun⟩
    | ok found =>
      cases hd : q.directory.all W₁.mirrors.hasDirectory with
      | false =>
        simp only [World.createMirror, hd] at h
        cases h
        exact ⟨es, .noDirectory hos hprobe hd, hrun⟩
      | true =>
        simp only [World.createMirror_of_directory hd, Action.onFailure_apply] at h
        cases found with
        | false =>
          cases h
          exact ⟨es, .made hos hprobe hd, hrun⟩
        | true =>
          rcases hf : download b limits o (W₁.mirrors.fresh q.directory)
            { W₁ with mirrors := W₁.mirrors.create q.directory } with ⟨content, W₂⟩
          obtain ⟨es', hfetch, hrun', hmirrors'⟩ := download_move hf
          simp only [hf, ite_true] at h
          cases content with
          | ok content =>
            cases h
            rw [hmirrors']
            exact ⟨es ++ es', .fetched hos hprobe hd hfetch, hrun.append hrun'⟩
          | error e =>
            cases h
            refine ⟨es ++ es', ?_, hrun.append hrun'⟩
            show OpenMove b limits o q W₁.mirrors _ _ (W₂.mirrors.remove _)
            rw [hmirrors']
            exact .notFetched hos hprobe hd hfetch

/-! ## Closing -/

variable {c c' : Mirrored}

theorem uploadMirror_apply (info : ObjectInfo) (c : Mirrored) (W : World σ) :
    uploadMirror b limits info (c, W) =
      match World.request b (.uploadFile c.object (W.mirrors.path c.mirror) c.file.content
          limits.parallelWorkers info)
        ((W.logged (.synchronisingInParallel c.file.content.size c.object
          limits.parallelWorkers)).counted fun m => { m with parallelSyncs := m.parallelSyncs + 1 })
      with
      | (.error e, W) => (.error (uploadFailed c.object e), (c, W))
      | (.ok _, W) => (.ok (), (c, W.counted fun m =>
          { m with parallelBytes := m.parallelBytes + c.file.content.size })) := by
  simp only [uploadMirror, Action.bind_apply, this_apply, world_apply, World.log_apply, World.count_apply]
  refine (Action.bind_apply ..).trans ?_
  simp only [Action.get_apply, World.counted_mirrors, World.logged_mirrors]
  rcases World.request b _ _ with ⟨_ | _, _⟩ <;> rfl

/-- Sending the mirror changes no mirror file. -/
theorem sync_move {r : Except Failure Unit} (h : sync b limits names (c, W) = (r, (c', W'))) :
    ∃ es, SyncMove limits names c W.mirrors es r c' ∧ b.Runs W.store es W'.store ∧
      W'.mirrors = W.mirrors := by
  simp only [sync, Action.bind_apply, this_apply, Action.get_apply] at h
  cases hm : W.hasMirror c.mirror with
  | false =>
    simp only [hm] at h
    cases h
    exact ⟨[], .lost hm, .nil, rfl⟩
  | true =>
    simp only [hm, Bool.not_true, Bool.false_eq_true, ite_false] at h
    by_cases hs : limits.parallelThreshold < c.file.content.size
    · rcases hc : b.call (.uploadFile c.object (W.mirrors.path c.mirror) c.file.content
        limits.parallelWorkers (c.syncInfo names)) W.store with ⟨x, s⟩
      simp only [hs, ite_true, uploadMirror_apply, World.request_apply, World.logged_store,
        World.counted_store, hc] at h
      have hm' := @SyncMove.uploaded τ limits names c W.mirrors hm hs x
      cases x <;> cases h <;>
        exact ⟨_, hm', .answered hc, by simp⟩
    · rcases hc : b.call (.put c.object c.file.content c.file.content.size (c.syncInfo names))
        W.store with ⟨x, s⟩
      simp only [hs, ite_false, putMirror, Action.bind_apply, this_apply, world_apply,
        World.log_apply, World.count_apply, Action.mapFailure_apply, World.request_apply,
        World.logged_store, World.counted_store, hc] at h
      cases x with
      | ok reply =>
        cases h
        exact ⟨_, .stored hm (by omega) reply, .answered hc, by simp⟩
      | error e =>
        cases h
        exact ⟨_, .notStored hm (by omega) e, .answered hc, by simp⟩

/-- What closing does to a mirror's object. -/
def finish (b : Backend σ τ) (limits : Limits) (names : ContentType.NameTypes) (os : OpenOptions) :
    Step σ Unit :=
  if os.has .deleteOnClose then deleteObject b
  else if os.isReadOnly then Action.pure ()
  else sync b limits names

theorem close_of_open (hc : c.closed = false) :
    Mirrored.close b limits names (c, W) =
      match finish b limits names c.options ({ c with closed := true }, W) with
      | (r, (c', W')) => (r, (c', { W' with mirrors := W'.mirrors.remove c.mirror })) := by
  simp only [Mirrored.close, Action.bind_apply, this_apply, hc, Bool.false_eq_true, ite_false]
  show (finish b limits names c.options).ensuring (world (World.removeMirror c.mirror)) _ = _
  rw [Action.ensuring_eq]
  rfl

theorem close_move {r : Except Failure Unit}
    (h : Mirrored.close b limits names (c, W) = (r, (c', W'))) :
    ∃ es, CloseMove limits names c W.mirrors es r c' W'.mirrors ∧
      b.Runs W.store es W'.store := by
  cases hc : c.closed with
  | true =>
    simp only [Mirrored.close, Action.bind_apply, this_apply, hc] at h
    cases h
    exact ⟨[], .again hc, .nil⟩
  | false =>
    rw [close_of_open hc] at h
    cases hd : c.options.has .deleteOnClose with
    | true =>
      rcases hx : b.call (.delete c.object) W.store with ⟨x, s⟩
      simp only [finish, hd, ite_true, deleteObject, Action.bind_apply, this_apply,
        Action.mapFailure_apply, world_apply, World.request_apply, hx] at h
      cases h
      rw [World.answered_mirrors]
      exact ⟨_, .deleted hc hd x, .answered hx⟩
    | false =>
      cases hr : c.options.isReadOnly with
      | true =>
        simp only [finish, hd, hr, Bool.false_eq_true, ite_false, ite_true] at h
        cases h
        exact ⟨[], .unchanged hc hd hr, .nil⟩
      | false =>
        simp only [finish, hd, hr, Bool.false_eq_true, ite_false] at h
        rcases hs : sync b limits names ({ c with closed := true }, W) with ⟨_, ⟨c₁, W₁⟩⟩
        obtain ⟨es, hm, hrun, hmirrors⟩ := sync_move hs
        rw [hs] at h
        cases h
        rw [hmirrors]
        exact ⟨es, .synced hc hd hr hm, hrun⟩

end Mirrored

end ObjectChannel
