/-
A mirrored channel does the same over two plain stores. Two such channels may differ in the replies that
they got to storing their mirrors, which nothing looks at.
-/
import ObjectChannel.Proofs.Mirrored.Session
import ObjectChannel.Proofs.Plain.Alike

namespace ObjectChannel.Mirrored

open ChannelAction
open Store (Contents)

section

variable {σ τ : Type} {b : Backend σ τ} {P : b.Plain} {o : ObjectId} {x : StoredObject}

/-- An object that is there is fetched. -/
theorem fetchContent_of_object (limits : Limits) {W : World σ}
    (hx : (P.contents W.store).object? o = some x) :
    ∃ W₁, fetchContent b limits o W = (.ok x.data, W₁) ∧ P.Untouched W W₁ := by
  have hrange : ∀ i j, (none : Option (Nat × Nat)) = some (i, j) → i < j ∧ P.Reaches j := by
    intro i j h
    cases h
  obtain ⟨t, s, hcall, hwhole, hleft, hs⟩ := P.get_object _ _ _ _ hx hrange
  obtain ⟨t', hcopy, hwhole'⟩ := copyStream_of_isWhole P.streams limits.downloadChunk_pos hwhole .empty
  obtain ⟨s', hclose, hs'⟩ := P.close_whole _ s hwhole'
  rw [ByteArray.empty_append, hleft] at hcopy
  refine ⟨{ W.answered b (.get o none) with store := s' }, ?_,
    (Backend.Plain.Untouched.answered hcall hs).trans (.onStore ?_)⟩
  · simp only [fetchContent, Action.bind_apply, World.request_apply, hcall, hcopy, Action.ensuring_apply,
      Action.ofExcept_apply, World.onStore_apply, World.answered_store, hclose]
    rfl
  · rw [World.answered_store, hcall]
    exact hs'

theorem download_of_object (limits : Limits) {W : World σ} (m : Mirror)
    (hx : (P.contents W.store).object? o = some x) :
    ∃ W₁, download b limits o m W = (.ok x.data, W₁) ∧ P.Untouched W W₁ := by
  obtain ⟨W₁, hfetch, hW₁⟩ :=
    fetchContent_of_object limits (W := W.logged (.mirroring o (W.mirrors.path m))) hx
  have hdownload : download b limits o m W =
      (.ok x.data, W₁.counted fun c => { c with mirroredBytes := c.mirroredBytes + x.data.size }) := by
    simp only [download, Action.bind_apply, Action.get_apply, World.log_apply, Action.mapFailure_apply,
      hfetch]
    rfl
  exact ⟨_, hdownload, ((Backend.Plain.Untouched.logged W _).trans hW₁).trans (.counted W₁ _)⟩

end

variable {σ τ σ' τ' : Type} {b : Backend σ τ} {b' : Backend σ' τ'}

/-- Two mirrored channels, the same but for the reply to storing them, in worlds that are alike. -/
inductive Alike (P : b.Plain) (P' : b'.Plain) (c₀ : Contents) :
    Mirrored × World σ → Mirrored × World σ' → Prop where
  | mk {m W W' reply} (world : World.Alike P P' c₀ W W') :
    Alike P P' c₀ (m, W) ({ m with putResult := reply }, W')

variable {P : b.Plain} {P' : b'.Plain} {c₀ : Contents} {W : World σ} {W' : World σ'}

/-! ## Opening -/

/-- Worlds that are alike, with contents that are known. -/
def AlikeWith (P : b.Plain) (P' : b'.Plain) (c₀ c : Contents) (W : World σ) (W' : World σ') : Prop :=
  World.Alike P P' c₀ W W' ∧ P.contents W.store = c

theorem probe_same {c : Contents} (hW : AlikeWith P P' c₀ c W W') (o : ObjectId) :
    Same (fun found found' => found = found' ∧ found = (c.object? o).isSome)
      (AlikeWith P P' c₀ c) (probe b o W) (probe b' o W') := by
  obtain ⟨hW, rfl⟩ := hW
  obtain ⟨h, h', hcall, hcall', hfound, hfound', hstore, halike⟩ := hW.call (r := .head o) trivial
  have hfound : h.found = ((P.contents W.store).object? o).isSome := hfound
  have hfound' : h'.found = ((P.contents W.store).object? o).isSome := hfound'
  simp only [probe, Action.bind_apply, Action.mapFailure_apply, World.request_apply, hcall, hcall']
  exact .ok ⟨hfound.trans hfound'.symm, hfound⟩ ⟨halike, hstore⟩

/-- What is fetched is there. -/
theorem existing_same {c : Contents} (hW : AlikeWith P P' c₀ c W W') (o : ObjectId)
    (os : OpenOptions) :
    Same (fun found found' => found = found' ∧ (found = true → (c.object? o).isSome = true))
      (AlikeWith P P' c₀ c) (existing b o os W) (existing b' o os W') := by
  unfold existing
  by_cases htruncate : os.has .truncateExisting = true
  · simp only [htruncate, ite_true]
    exact .ok ⟨rfl, fun h => absurd h Bool.false_ne_true⟩ hW
  · simp only [htruncate, Bool.false_eq_true, ite_false]
    refine (probe_same hW o).bind (fun {found _ V V'} hfound hV => ?_) fun h => h
    obtain ⟨rfl, hfound⟩ := hfound
    by_cases hexists : (found && os.has .createNew) = true
    · simp only [hexists, ite_true]
      exact .error rfl hV
    · by_cases hmissing : (!found && !os.creates) = true
      · simp only [hexists, hmissing, Bool.false_eq_true, ite_false, ite_true]
        exact .error rfl hV
      · simp only [hexists, hmissing, Bool.false_eq_true, ite_false]
        exact .ok ⟨rfl, fun h => hfound.symm.trans h⟩ hV

theorem createMirror_same {c : Contents} (hW : AlikeWith P P' c₀ c W W')
    (directory : Option String) :
    Same Eq (AlikeWith P P' c₀ c) (World.createMirror directory W)
      (World.createMirror directory W') := by
  obtain ⟨hW, hc⟩ := hW
  have hmirrors := hW.mirrors
  unfold World.createMirror
  rw [hmirrors]
  by_cases hd : directory.all W.mirrors.hasDirectory = true
  · simp only [hd, ite_true]
    exact .ok rfl ⟨⟨hW.contents, rfl, hW.namesFree, hW.keepsUploads⟩, hc⟩
  · simp only [hd, Bool.false_eq_true, ite_false]
    exact .error rfl ⟨hW, hc⟩

/-- What is there is fetched in both worlds, and nothing else is. -/
theorem content_same {c : Contents} (hW : AlikeWith P P' c₀ c W W') (limits : Limits) (o : ObjectId)
    (m : Mirror) (found : Bool) (hfound : found = true → (c.object? o).isSome = true) :
    Same Eq (World.Alike P P' c₀)
      (((if found then download b limits o m else Action.pure .empty).onFailure
        (World.removeMirror m) : Action (World σ) Bytes) W)
      (((if found then download b' limits o m else Action.pure .empty).onFailure
        (World.removeMirror m) : Action (World σ') Bytes) W') := by
  obtain ⟨hW, rfl⟩ := hW
  cases found with
  | false => exact .ok rfl hW
  | true =>
    obtain ⟨x, hx⟩ := Option.isSome_iff_exists.mp (hfound rfl)
    obtain ⟨W₁, hdownload, hW₁⟩ := download_of_object limits m hx
    obtain ⟨W₁', hdownload', hW₁'⟩ := download_of_object (P := P') limits m
      (show (P'.contents W'.store).object? o = some x by rw [hW.contents]; exact hx)
    simp only [ite_true, Action.onFailure_apply, hdownload, hdownload']
    exact .ok rfl (hW.untouched hW₁ hW₁')

theorem open_same (hW : World.Alike P P' c₀ W W') (limits : Limits) (o : ObjectId) (q : OpenRequest) :
    Same Eq (World.Alike P P' c₀) (Mirrored.open b limits o q W) (Mirrored.open b' limits o q W') := by
  unfold Mirrored.open
  rw [Action.bind_apply, Action.bind_apply, Action.ofExcept_apply, Action.ofExcept_apply]
  cases OpenOptions.ofGiven q.options with
  | error e => exact .error rfl hW
  | ok os =>
    refine (existing_same ⟨hW, rfl⟩ o os).bind (fun {found _ _ _} hfound hV => ?_) fun h => h.1
    obtain ⟨rfl, hfound⟩ := hfound
    refine (createMirror_same hV q.directory).bind (fun {m _ _ _} hm hV => ?_) fun h => h.1
    obtain rfl := hm
    exact (content_same hV limits o m found hfound).map fun h => by rw [h]

/-! ## Operations on the mirror -/

section

variable (hW : World.Alike P P' c₀ W W') (m : Mirrored) (reply : Option PutResult)

include hW

theorem onFile_same {α : Type} (f : LocalFile → Except Failure (α × LocalFile)) :
    Same Eq (Alike P P' c₀) (onFile f (m, W)) (onFile f ({ m with putResult := reply }, W')) := by
  by_cases hc : m.closed = true
  · rw [onFile_of_closed hc, onFile_of_closed (c := { m with putResult := reply }) hc]
    exact .error rfl (.mk (m := m) hW)
  · have hopen : m.closed = false := Bool.eq_false_iff.mpr hc
    rw [onFile_apply hopen, onFile_apply (c := { m with putResult := reply }) hopen]
    dsimp only
    cases f m.file with
    | error e => exact .error rfl (.mk (m := m) hW)
    | ok a => exact .ok rfl (.mk (m := { m with file := a.2 }) hW)

/-! ## Closing -/

theorem deleteObject_same :
    Same Eq (Alike P P' c₀) (deleteObject b (m, W))
      (deleteObject b' ({ m with putResult := reply }, W')) := by
  obtain ⟨_, _, hcall, hcall', -, -, -, halike⟩ := hW.call (r := .delete m.object) trivial
  simp only [deleteObject, Action.bind_apply, this_apply, world_apply, Action.mapFailure_apply,
    World.request_apply, hcall, hcall']
  exact .ok rfl (.mk (m := m) halike)

theorem putMirror_same (info : ObjectInfo) :
    Same Eq (Alike P P' c₀) (putMirror b info (m, W))
      (putMirror b' info ({ m with putResult := reply }, W')) := by
  let content := m.file.content
  obtain ⟨x, x', hcall, hcall', -, -, -, halike⟩ :=
    ((hW.logged (.synchronising content.size m.object)).counted
      fun c => { c with putSyncs := c.putSyncs + 1 }).call
        (r := .put m.object content content.size info) trivial
  simp only [World.counted_store, World.logged_store, content] at hcall hcall'
  simp only [putMirror, Action.bind_apply, this_apply, world_apply, World.log_apply, World.count_apply,
    Action.mapFailure_apply, World.request_apply, World.counted_store, World.logged_store, hcall,
    hcall', change_apply]
  exact .ok rfl (.mk (m := { m with putResult := some x }) (halike.counted _))

theorem uploadMirror_same {limits : Limits} (hworkers : 0 < limits.parallelWorkers)
    (info : ObjectInfo) :
    Same Eq (Alike P P' c₀) (uploadMirror b limits info (m, W))
      (uploadMirror b' limits info ({ m with putResult := reply }, W')) := by
  let content := m.file.content
  have hpath : W'.mirrors.path m.mirror = W.mirrors.path m.mirror := by rw [hW.mirrors]
  obtain ⟨x, x', hcall, hcall', -, -, -, halike⟩ :=
    ((hW.logged (.synchronisingInParallel content.size m.object limits.parallelWorkers)).counted
      fun c => { c with parallelSyncs := c.parallelSyncs + 1 }).call
        (r := .uploadFile m.object (W.mirrors.path m.mirror) content limits.parallelWorkers info) hworkers
  simp only [World.counted_store, World.logged_store, content] at hcall hcall'
  rw [uploadMirror_apply, uploadMirror_apply]
  dsimp only
  rw [hpath]
  simp only [World.request_apply, World.counted_store, World.logged_store, hcall, hcall']
  exact .ok rfl (.mk (m := m) (halike.counted _))

theorem sync_same {limits : Limits} (hworkers : 0 < limits.parallelWorkers)
    (names : ContentType.NameTypes) :
    Same Eq (Alike P P' c₀) (sync b limits names (m, W))
      (sync b' limits names ({ m with putResult := reply }, W')) := by
  have hpresent : W'.hasMirror m.mirror = W.hasMirror m.mirror := by
    rw [World.hasMirror, World.hasMirror, hW.mirrors]
  simp only [sync, Action.bind_apply, this_apply, Action.get_apply, hpresent]
  cases W.hasMirror m.mirror with
  | false => exact .error rfl (.mk (m := m) hW)
  | true =>
    simp only [Bool.not_true, Bool.false_eq_true, ite_false]
    by_cases hlarge : limits.parallelThreshold < m.file.content.size
    · simp only [hlarge, ite_true]
      exact uploadMirror_same hW m reply hworkers (m.syncInfo names)
    · simp only [hlarge, ite_false]
      exact putMirror_same hW m reply (m.syncInfo names)

theorem finish_same {limits : Limits} (hworkers : 0 < limits.parallelWorkers)
    (names : ContentType.NameTypes) (os : OpenOptions) :
    Same Eq (Alike P P' c₀) (finish b limits names os (m, W))
      (finish b' limits names os ({ m with putResult := reply }, W')) := by
  unfold finish
  by_cases hdelete : os.has .deleteOnClose = true
  · simp only [hdelete, ite_true]
    exact deleteObject_same hW m reply
  · by_cases hread : os.isReadOnly = true
    · simp only [hdelete, hread, Bool.false_eq_true, ite_false, ite_true]
      exact .ok rfl (.mk (m := m) hW)
    · simp only [hdelete, hread, Bool.false_eq_true, ite_false]
      exact sync_same hW m reply hworkers names

theorem close_same {limits : Limits} (hworkers : 0 < limits.parallelWorkers)
    (names : ContentType.NameTypes) :
    Same Eq (Alike P P' c₀) (close b limits names (m, W))
      (close b' limits names ({ m with putResult := reply }, W')) := by
  by_cases hclosed : m.closed = true
  · have hagain {σ τ} (b : Backend σ τ) {c : Mirrored} (hc : c.closed = true) (W : World σ) :
        close b limits names (c, W) = (.ok (), (c, W)) := by
      simp only [close, Action.bind_apply, this_apply, hc]
      rfl
    rw [hagain b hclosed, hagain b' (c := { m with putResult := reply }) hclosed]
    exact .ok rfl (.mk (m := m) hW)
  · have hopen : m.closed = false := Bool.eq_false_iff.mpr hclosed
    have hfinish := finish_same hW { m with closed := true } reply hworkers names m.options
    rw [close_of_open hopen, close_of_open (c := { m with putResult := reply }) hopen]
    dsimp only
    generalize finish b limits names m.options ({ m with closed := true }, W) = x,
      finish b' limits names m.options ({ m with closed := true, putResult := reply }, W') = x' at hfinish
    cases hfinish with
    | ok value state =>
      obtain @⟨c, W, W', reply, hW⟩ := state
      exact .ok value (.mk (m := c) (hW.withMirrors fun M => M.remove m.mirror))
    | error failure state =>
      obtain @⟨c, W, W', reply, hW⟩ := state
      exact .error failure (.mk (m := c) (hW.withMirrors fun M => M.remove m.mirror))

/-! ## All operations -/

theorem fillFromMirror_same (p : Platform) (buffer : Bytes) :
    Same (fun a a' => a'.bare = a.bare) (Alike P P' c₀) (Channel.fillFromMirror p buffer (m, W))
      (Channel.fillFromMirror p buffer ({ m with putResult := reply }, W')) := by
  have hread : Same Eq (Alike P P' c₀) (readInto p buffer (m, W))
      (readInto p buffer ({ m with putResult := reply }, W')) :=
    (onFile_same hW m reply _).map fun h => by rw [h]
  unfold Channel.fillFromMirror
  generalize readInto p buffer (m, W) = x, readInto p buffer ({ m with putResult := reply }, W') = x'
    at hread
  cases hread with
  | ok value state =>
    subst value
    exact .ok rfl state
  | error failure state =>
    refine .ok ?_ state
    show Answer.filled buffer (.error _) = .filled buffer (.error _)
    rw [failure]

theorem unlinkMirror_same :
    Same Eq (Alike P P' c₀) (Channel.unlinkMirror (m, W))
      (Channel.unlinkMirror ({ m with putResult := reply }, W')) := by
  have hpresent : W'.hasMirror m.mirror = W.hasMirror m.mirror := by
    rw [World.hasMirror, World.hasMirror, hW.mirrors]
  simp only [Channel.unlinkMirror, hpresent]
  cases W.hasMirror m.mirror with
  | false => exact .error rfl (.mk (m := m) hW)
  | true => exact .ok rfl (.mk (m := m) (hW.withMirrors fun M => M.remove m.mirror))

/-- **A mirrored channel does the same over two plain stores**, whatever the operation. -/
theorem perform_same {limits : Limits} (hworkers : 0 < limits.parallelWorkers)
    (names : ContentType.NameTypes) (op : Operation) :
    Same (fun a a' => a'.bare = a.bare) (Alike P P' c₀)
      (Channel.performMirrored ⟨b, limits, names⟩ op (m, W))
      (Channel.performMirrored ⟨b', limits, names⟩ op ({ m with putResult := reply }, W')) := by
  cases op with
  | read | write | truncate | seek | position | tell | size | readable | writable =>
    exact (onFile_same hW m reply _).map fun h => by rw [h]
  | setPosition => exact (onFile_same hW m reply _).map fun _ => rfl
  | readInto buffer => exact fillFromMirror_same hW m reply limits.platform buffer
  | close | leave => exact (close_same hW m reply hworkers names).map fun _ => rfl
  | removeMirror => exact (unlinkMirror_same hW m reply).map fun _ => rfl
  | setLastModified t => exact .ok rfl (.mk (m := { m with lastModified := t }) hW)
  | enter | seekable | objectId | options => exact .ok rfl (.mk (m := m) hW)
  | discard | partCount | uploadId => exact .error rfl (.mk (m := m) hW)

end

end ObjectChannel.Mirrored
