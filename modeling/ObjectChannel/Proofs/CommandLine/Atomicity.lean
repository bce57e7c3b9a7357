/-
A command line that does not go through leaves everything as it was: the objects of the store, the local
files, what was shown, and the mirror files. Requests and streams may fail at any time, interrupts
included, as long as a request that fails has done nothing.

An upload is discarded unless all of the file was taken, and a file is emptied for a download only once
all of the object is in a mirror, so that nothing can fail any more.
-/
import ObjectChannel.Proofs.CommandLine.RoundTrip
import ObjectChannel.Proofs.Mirrored.Fleet
import ObjectChannel.Proofs.Settled
import ObjectChannel.Proofs.Writer.Draft

namespace ObjectChannel

variable {σ τ : Type} {b : Backend σ τ}

/-- Writers and readers leave mirror files alone. -/
theorem Backend.settles_mirrors (b : Backend σ τ) : b.Settles (·.mirrors) :=
  ⟨fun _ _ => rfl, fun W r => W.answered_mirrors b r, fun _ _ => rfl⟩

/-! ## Storing pieces -/

namespace CommandLine

open ChannelAction Console Writer

section

variable (V : b.View) {limits : Limits} {w w' : Writer} {W W' : World σ}

/-- A writer that is open has a draft of some data. -/
def HasDraft (limits : Limits) (w : Writer) (s : σ) : Prop :=
  w.closed = false → ∃ data, Draft limits V.keep (V.holds s) w data

/-- Writing pieces changes no object. -/
theorem writePieces_objects {pieces : List Bytes} {total : Nat} {r : Except Failure Nat}
    (hd : HasDraft V limits w W.store) (h : writePieces b limits total pieces (w, W) = (r, (w', W'))) :
    (V.holds W'.store).object = (V.holds W.store).object ∧ HasDraft V limits w' W'.store := by
  induction pieces generalizing total w W with
  | nil =>
    cases h
    exact ⟨rfl, hd⟩
  | cons piece pieces ih =>
    rcases hw : Writer.write b limits (some piece) (w, W) with ⟨x, ⟨w₁, W₁⟩⟩
    -- one piece
    have hone : (V.holds W₁.store).object = (V.holds W.store).object ∧
        HasDraft V limits w₁ W₁.store := by
      obtain ⟨es, hm, hr⟩ := write_move hw
      cases hc : w.closed with
      | true =>
        obtain ⟨rfl, hc'⟩ := (Move.write hm).silent hc
        exact ⟨by rw [hr.eq_of_nil], fun hopen => by simp [hc'] at hopen⟩
      | false =>
        obtain ⟨data, hdraft⟩ := hd hc
        obtain ⟨hobject, hdraft'⟩ := hm.draft V hr hdraft
        exact ⟨hobject, fun hopen => ⟨_, hdraft' hopen⟩⟩
    rw [writePieces, hw] at h
    cases x with
    | error e =>
      cases h
      exact hone
    | ok n =>
      obtain ⟨hobject, hdraft⟩ := ih hone.2 h
      exact ⟨hobject.trans hone.1, hdraft⟩

theorem writePieces_keepsMirrors (pieces : List Bytes) (total : Nat) :
    (writePieces b limits total pieces).Keeps (·.2.mirrors) := by
  induction pieces generalizing total with
  | nil => exact fun _ => rfl
  | cons piece pieces ih =>
    intro s
    have hw := write_keeps b.settles_mirrors limits (some piece) s
    rw [writePieces]
    rcases h : Writer.write b limits (some piece) s with ⟨_ | n, s'⟩ <;> rw [h] at hw
    · exact hw
    · exact (ih _ s').trans hw

theorem discard_objects {r : Except Failure Unit} (h : discard b (w, W) = (r, (w', W'))) :
    (V.holds W'.store).object = (V.holds W.store).object := by
  obtain ⟨es, hm, hr⟩ := discard_move h
  cases hm with
  | again => rw [hr.eq_of_nil]
  | dropped hc abort => rw [abort.holds_eq V hr]

/-- Closing that fails changes no object. -/
theorem close_objects {e : Failure} (hd : HasDraft V limits w W.store)
    (h : close b limits (w, W) = (.error e, (w', W'))) :
    (V.holds W'.store).object = (V.holds W.store).object := by
  obtain ⟨es, hm, hr⟩ := close_move h
  cases hm with
  | published hc publish =>
    obtain ⟨data, hdraft⟩ := hd hc
    obtain ⟨hr', -⟩ | ⟨-, hobject⟩ := publish.draft V hr hdraft
    · cases hr'
    · exact hobject

/-- Pieces that are not published have changed no object. -/
theorem publishPieces_objects {pieces : Except Failure (List Bytes)} {e : Failure}
    (hd : HasDraft V limits w W.store)
    (h : publishPieces b limits pieces (w, W) = (.error e, (w', W'))) :
    (V.holds W'.store).object = (V.holds W.store).object := by
  simp only [publishPieces, Action.bind_apply, Action.onFailure_apply, Action.ofExcept_apply] at h
  cases pieces with
  | error e =>
    rcases hdiscard : discard b (w, W) with ⟨_ | _, ⟨w₁, W₁⟩⟩ <;> simp only [hdiscard] at h <;> cases h <;>
      exact discard_objects V hdiscard
  | ok pieces =>
    rcases hwrite : writePieces b limits 0 pieces (w, W) with ⟨e | n, ⟨w₁, W₁⟩⟩ <;>
      simp only [hwrite] at h <;> obtain ⟨hobject, hdraft⟩ := writePieces_objects V hd hwrite
    · rcases hdiscard : discard b (w₁, W₁) with ⟨_ | _, ⟨w₂, W₂⟩⟩ <;> simp only [hdiscard] at h <;>
        cases h <;> exact (discard_objects V hdiscard).trans hobject
    · rcases hclose : close b limits (w₁, W₁) with ⟨_ | _, ⟨w₂, W₂⟩⟩ <;> simp only [hclose] at h <;>
        cases h
      exact (close_objects V hdraft hclose).trans hobject

theorem publishPieces_keepsMirrors (b : Backend σ τ) (limits : Limits)
    (pieces : Except Failure (List Bytes)) :
    (publishPieces b limits pieces).Keeps (·.2.mirrors) := by
  refine .bind (Action.Keeps.onFailure ?_ (discard_keeps b.settles_mirrors)) fun _ =>
    .bind (close_keeps b.settles_mirrors) fun _ => Action.Keeps.pure _
  exact .bind (Action.Keeps.ofExcept _) fun _ => writePieces_keepsMirrors _ _

end

/-! ## Tasks -/

/-- Nothing has changed of what a command line works on: no object, no local file, nothing of what was
shown, and no mirror file. `object` tells what a store holds. -/
structure Untouched (object : σ → ObjectId → Option StoredObject) (c c' : Console σ) : Prop where
  objects : object c'.world.store = object c.world.store
  files : c'.files = c.files
  output : c'.output = c.output
  mirrors : c'.world.mirrors.present = c.world.mirrors.present

namespace Untouched

variable {object : σ → ObjectId → Option StoredObject} {c c' c'' : Console σ}

theorem refl (c : Console σ) : Untouched object c c := ⟨rfl, rfl, rfl, rfl⟩

theorem trans (h : Untouched object c c') (h' : Untouched object c' c'') : Untouched object c c'' :=
  ⟨h'.objects.trans h.objects, h'.files.trans h.files, h'.output.trans h.output,
    h'.mirrors.trans h.mirrors⟩

end Untouched

section

variable {s : Service σ τ} (V : s.backend.View) {limits : Limits} {c c' : Console σ} {e : Failure}

theorem openWriter_eq {key : String} {w : Writer} (h : s.openWriter key none Table.empty = .ok w) :
    ∃ o, s.objectId key = .ok o ∧
      w = { object := o, info := { storageClass := s.settings.storageClass } } := by
  unfold Service.openWriter at h
  cases hkey : s.objectId key with
  | error e => rw [hkey] at h; cases h
  | ok o => rw [hkey] at h; cases h; exact ⟨o, rfl, rfl⟩

/-- A file that is not stored leaves everything as it was. -/
theorem upload_failed {source : String} {key : Option String}
    (h : upload s limits source key c = (.error e, c')) :
    Untouched (fun st => (V.holds st).object) c c' := by
  simp only [upload, Action.bind_apply, readFile] at h
  cases hread : c.files.read source with
  | error e =>
    simp only [hread] at h
    cases h
    exact .refl c
  | ok data =>
    cases key with
    | none =>
      simp only [hread] at h
      cases h
      exact .refl c
    | some key =>
      cases hopen : s.openWriter key none Table.empty with
      | error e =>
        simp only [hread, hopen, Action.bind_apply, Action.ofExcept_apply] at h
        cases h
        exact .refl c
      | ok w =>
        obtain ⟨o, -, rfl⟩ := openWriter_eq hopen
        simp only [hread, hopen, Action.bind_apply, Action.ofExcept_apply, onWorld_apply, runOn] at h
        rcases hpublish : publishPieces s.backend limits (piecesOf limits.platform data limits.copyChunk)
          (({ object := o, info := { storageClass := s.settings.storageClass } }, c.world))
          with ⟨x, ⟨w', W'⟩⟩
        simp only [hpublish] at h
        cases h
        have hmirrors := publishPieces_keepsMirrors s.backend limits
          (piecesOf limits.platform data limits.copyChunk)
          ({ object := o, info := { storageClass := s.settings.storageClass } }, c.world)
        rw [hpublish] at hmirrors
        exact ⟨publishPieces_objects V (fun _ => ⟨_, .initial ..⟩) hpublish, rfl, rfl,
          congrArg Mirrors.present hmirrors⟩

/-- A range that is looked at leaves everything as it was, also where that fails. -/
theorem readRange_untouched (limits : Limits) (key : String) (offset length : Option Int) (c : Console σ) :
    Untouched (fun st => (V.holds st).object) c (readRange s limits key offset length c).2 := by
  simp only [readRange, Action.bind_apply, Action.ofExcept_apply]
  cases s.objectId key with
  | error e => exact .refl c
  | ok o =>
    simp only
    cases (do Reader.opened o (← numberOf offset) : Except Failure Reader) with
    | error e => exact .refl c
    | ok reader =>
      cases numberOf length with
      | error e => exact .refl c
      | ok size =>
        obtain ⟨es, hr, hl⟩ := Reader.read_onlyLooks (b := s.backend) limits (some size)
          (reader, c.world)
        have hmirrors := Reader.read_keeps s.backend.settles_mirrors
          (fun _ _ => rfl) limits (some size) (reader, c.world)
        exact ⟨congrArg Holdings.object (V.holds_of_looks hr hl), rfl, rfl,
          congrArg Mirrors.present hmirrors⟩

/-- An opened channel has its own mirror file, with what was fetched. -/
theorem opened_of_move {o : ObjectId} {q : OpenRequest} {M M' : Mirrors} {es : List (Exchange τ)}
    {m : Mirrored} (h : Mirrored.OpenMove b limits o q M es (.ok m) M') :
    m.closed = false ∧ OpenOptions.ofGiven q.options = .ok m.options ∧
      (∃ data, m.file = .opened m.options data) ∧ m.mirror = M.fresh q.directory ∧
      M' = M.create q.directory := by
  generalize hr : Except.ok m = r at h
  cases h with
  | badOptions | unfit | noDirectory | notFetched => cases hr
  | made hos | fetched hos =>
    cases hr
    exact ⟨rfl, hos, ⟨_, rfl⟩, rfl, rfl⟩

/-- A download that fails leaves everything as it was: by the time the file is emptied, all that it
is to have is in the mirror. -/
theorem download_failed (hcopy : 0 < limits.copyChunk) (hroom : limits.platform.HasRoom limits.copyChunk)
    (hM : c.world.mirrors.IsCounted) {key : String} {target : Option String}
    (h : download s limits key target c = (.error e, c')) :
    Untouched (fun st => (V.holds st).object) c c' := by
  rw [download, Action.bind_apply, onWorld_apply] at h
  rcases hchannel : s.openChannel limits key { options := some [.option .read] } c.world with ⟨x, W⟩
  rw [hchannel] at h
  -- the channel
  cases hkey : s.objectId key with
  | error e =>
    simp only [Service.openChannel, Action.bind_apply, hkey, Action.ofExcept_apply] at hchannel
    cases hchannel
    cases h
    exact .refl c
  | ok o =>
    simp only [Service.openChannel, Action.bind_apply, hkey, Action.ofExcept_apply] at hchannel
    obtain ⟨es, hr, hl⟩ := Mirrored.open_looks (b := s.backend) limits o
      { options := some [.option .read], directory := s.settings.mirrorDirectory,
        detects := s.settings.detectsContentType } c.world
    rw [hchannel] at hr
    have hobject := congrArg Holdings.object (V.holds_of_looks hr hl)
    obtain ⟨es, hm, -⟩ := Mirrored.open_move hchannel
    cases x with
    | error e =>
      cases h
      exact ⟨hobject, rfl, rfl, (hm.mirrors hM).1⟩
    | ok m =>
      obtain ⟨hopen, hos, ⟨data, hfile⟩, hmirror, hcreated⟩ := opened_of_move hm
      have hread : m.options.isReadOnly = true := by
        rw [← Except.ok.inj hos]
        rfl
      -- the channel is closed in any case, and its mirror file is gone then
      have hclose := close_of_readOnly s.backend limits ContentType.ofName (W := W) hopen hread
      have hgone : (W.mirrors.remove m.mirror).present = c.world.mirrors.present := by
        rw [hcreated, hmirror]
        exact Mirrors.present_remove_fresh hM _
      cases target with
      | none =>
        simp only [Action.ensuring_apply, Action.fail_apply, onWorld_apply, runOn, hclose] at h
        cases h
        exact ⟨hobject, rfl, rfl, hgone⟩
      | some path =>
        cases hwrite : c.files.write path .empty with
        | error e =>
          simp only [Action.ensuring_apply, Action.bind_apply, writeFile, hwrite, onWorld_apply, runOn,
            hclose] at h
          cases h
          exact ⟨hobject, rfl, rfl, hgone⟩
        | ok files =>
          -- from here on nothing fails
          obtain ⟨files', hcopied, -⟩ := copyMirror_of_opened (c := { c with world := W }) hcopy hroom
            hopen hfile hread hwrite
          simp only [Action.ensuring_apply, Action.bind_apply, writeFile, hwrite, onWorld_apply, runOn,
            hcopied, Action.pure_apply, hclose] at h
          cases h

/-- A file that was stored has an object that it is stored as. -/
theorem objectId_of_upload {source : String} {key : Option String} {n : Nat}
    (h : upload s limits source key c = (.ok n, c')) : ∃ o, s.objectId (key.getD "") = .ok o := by
  simp only [upload, Action.bind_apply, readFile] at h
  cases hread : c.files.read source with
  | error e => simp only [hread] at h; cases h
  | ok data =>
    cases key with
    | none => simp only [hread] at h; cases h
    | some key =>
      cases hopen : s.openWriter key none Table.empty with
      | error e =>
        simp only [hread, hopen, Action.bind_apply, Action.ofExcept_apply] at h
        cases h
      | ok w =>
        obtain ⟨o, hkey, -⟩ := openWriter_eq hopen
        exact ⟨o, hkey⟩

theorem objectId_of_download {key : String} {target : Option String} {n : Nat}
    (h : download s limits key target c = (.ok n, c')) : ∃ o, s.objectId key = .ok o := by
  cases hkey : s.objectId key with
  | ok o => exact ⟨o, rfl⟩
  | error e =>
    simp only [download, Action.bind_apply, onWorld_apply, Service.openChannel, hkey,
      Action.ofExcept_apply] at h
    cases h

/-- **A task that fails leaves everything as it was.** Telling what was done never fails. -/
theorem perform_failed (hcopy : 0 < limits.copyChunk) (hroom : limits.platform.HasRoom limits.copyChunk)
    (hM : c.world.mirrors.IsCounted) {task : Task}
    (h : perform s limits task c = (.error e, c')) :
    Untouched (fun st => (V.holds st).object) c c' := by
  cases task with
  | upload source key =>
    rcases hupload : upload s limits source key c with ⟨e' | n, c₁⟩
    · simp only [perform, Action.bind_apply, hupload] at h
      cases h
      exact upload_failed V hupload
    · obtain ⟨o, hkey⟩ := objectId_of_upload hupload
      simp only [perform, Action.bind_apply, hupload, Action.ofExcept_apply, hkey, print,
        Action.modify_apply] at h
      cases h
  | download key target =>
    rcases hdownload : download s limits key target c with ⟨e' | n, c₁⟩
    · simp only [perform, Action.bind_apply, hdownload] at h
      cases h
      exact download_failed V hcopy hroom hM hdownload
    · obtain ⟨o, hkey⟩ := objectId_of_download hdownload
      simp only [perform, Action.bind_apply, hdownload, Action.ofExcept_apply, hkey, print,
        Action.modify_apply] at h
      cases h
  | readRange key offset length =>
    have hrange := readRange_untouched V limits key offset length c
    rcases hread : readRange s limits key offset length c with ⟨e' | data, c₁⟩ <;>
      rw [hread] at hrange <;>
      simp only [perform, Action.bind_apply, hread, print, Action.modify_apply] at h <;> cases h
    exact hrange

end

/-! ## Command lines -/

section

variable {reach : Settings → Option String → Action (World σ) (Service σ τ)}
  {object : σ → ObjectId → Option StoredObject} {bucket : Option String} {service : Service σ τ}
  {c c' : Console σ} {limits : Limits}

/-- Reaching a service changes no object and no mirror file, and neither does any request to the service
that fails. -/
structure Reaches (reach : Settings → Option String → Action (World σ) (Service σ τ))
    (object : σ → ObjectId → Option StoredObject) : Prop where
  keeps : ∀ settings bucket, (reach settings bucket).Keeps fun W => (object W.store, W.mirrors)
  view : ∀ {settings bucket W service W'}, reach settings bucket W = (.ok service, W') →
    ∃ V : service.backend.View, (fun s => (V.holds s).object) = object

theorem exposeMetrics_keeps (service : Service σ τ) :
    service.exposeMetrics.Keeps fun W => (object W.store, W.mirrors) := by
  intro W
  unfold Service.exposeMetrics
  cases service.settings.metricsSocket with
  | none => rfl
  | some socket => cases service.settings.metricsEnabled <;> rfl

theorem startUp_keepsWorld (h : Reaches reach object) (bucket : Option String) :
    (startUp reach bucket).Keeps fun c => (object c.world.store, c.world.mirrors) := by
  refine .bind ?_ fun settings => .bind ?_ fun _ => .bind (fun c => h.keeps settings bucket c.world)
    fun service => .bind (fun c => exposeMetrics_keeps service c.world) fun _ => .pure _
  · intro c
    unfold loadSettings
    rcases c.settings.get with ⟨_, _⟩
    rfl
  · exact .bind (.ofExcept _) fun _ => .modify fun _ => rfl

/-- The service of a command line is one that was reached. -/
theorem reached_of_startUp (h : startUp reach bucket c = (.ok service, c')) :
    ∃ settings W W', reach settings bucket W = (.ok service, W') := by
  obtain ⟨settings, c₁, -, h⟩ := Action.ok_of_bind h
  obtain ⟨-, c₂, -, h⟩ := Action.ok_of_bind h
  obtain ⟨service', c₃, hreach, h⟩ := Action.ok_of_bind h
  obtain ⟨-, c₄, -, h⟩ := Action.ok_of_bind h
  cases h
  have hservice : (reach settings bucket c₂.world).1 = .ok service := congrArg Prod.fst hreach
  exact ⟨settings, c₂.world, _, Prod.ext hservice rfl⟩

/-- What a command line comes to, done or not. -/
structure Atomic (reach : Settings → Option String → Action (World σ) (Service σ τ)) (limits : Limits)
    (object : σ → ObjectId → Option StoredObject) (texts : List String) (c : Console σ) : Prop where
  /-- Unless it is done, everything is as it was. -/
  untouched : (run reach limits texts c).1 ≠ .ok .done →
    Untouched object c (run reach limits texts c).2
  /-- It is reported as failed just where a channel has failed at the task. -/
  failed : ∀ {invocation}, Invocation.ofTexts texts = .ok invocation → ∀ fault,
    (run reach limits texts c).1 = .ok (.failed fault) ↔ ∃ service c' cause,
      startUp reach invocation.bucket c = (.ok service, c') ∧
        (perform service limits invocation.task c').1 = .error (.channel fault cause)
  /-- Whatever else goes wrong is raised. -/
  raised : ∀ {invocation}, Invocation.ofTexts texts = .ok invocation →
    (run reach limits texts c).1 ≠ .ok .done →
    (∃ fault, (run reach limits texts c).1 = .ok (.failed fault)) ∨
      ∃ e, (run reach limits texts c).1 = .error e

theorem run_of_stop {texts : List String} {why : Stop} (h : Invocation.ofTexts texts = .error why) :
    run reach limits texts c = (.ok (.stopped why), c) := by
  unfold run
  rw [h]
  rfl

/-- What a channel fails at is how the command line ends, and every other failure is raised. -/
theorem ending_of_error {x : Action (Console σ) Unit} {e : Failure} (h : x c = (.error e, c')) :
    (∃ fault cause, e = .channel fault cause ∧ ending x c = (.ok (.failed fault), c')) ∨
      (∀ fault cause, e ≠ .channel fault cause) ∧ ending x c = (.error e, c') := by
  unfold ending
  rw [h]
  cases e with
  | channel fault cause => exact .inl ⟨fault, cause, rfl, rfl⟩
  | _ => exact .inr ⟨by simp, rfl⟩

/-- **A command line is done, or leaves everything as it was**, whatever fails or is interrupted: the
objects of the store, the local files, what was shown and the mirror files. -/
theorem done_or_untouched (h : Reaches reach object) (hcopy : 0 < limits.copyChunk)
    (hroom : limits.platform.HasRoom limits.copyChunk) (hM : c.world.mirrors.IsCounted)
    (texts : List String) : Atomic reach limits object texts c := by
  cases htexts : Invocation.ofTexts texts with
  | error why =>
    refine ⟨fun _ => ?_, fun h => ?_, fun h => ?_⟩
    · rw [run_of_stop htexts]
      exact .refl c
    · simp [htexts] at h
    · simp [htexts] at h
  | ok invocation =>
    have hkeeps := startUp_keeps reach invocation.bucket c
    have hworld := startUp_keepsWorld h invocation.bucket c
    rcases hstart : startUp reach invocation.bucket c with ⟨e | service, c'⟩ <;>
      rw [hstart] at hkeeps hworld <;>
      have hstarted : Untouched object c c' :=
        ⟨congrArg Prod.fst hworld, congrArg Prod.fst hkeeps, congrArg Prod.snd hkeeps,
          congrArg (fun x => x.2.present) hworld⟩
    · have hrun : run reach limits texts c = (.error e, c') := by
        rw [run_eq htexts, Action.bind_apply, hstart]
      refine ⟨fun _ => by rw [hrun]; exact hstarted, ?_, fun _ _ => .inr ⟨e, by rw [hrun]⟩⟩
      intro invocation' hinvocation fault
      obtain rfl : invocation = invocation' := Except.ok.inj (htexts.symm.trans hinvocation)
      simp [hrun, hstart]
    · have hrun : run reach limits texts c = ending (perform service limits invocation.task) c' := by
        rw [run_eq htexts, Action.bind_apply, hstart]
      obtain ⟨settings, W, W', hreach⟩ := reached_of_startUp hstart
      obtain ⟨V, rfl⟩ := h.view hreach
      have hmirrors : c'.world.mirrors = c.world.mirrors := congrArg Prod.snd hworld
      rcases htask : perform service limits invocation.task c' with ⟨e | u, c₁⟩
      · have htouched := hstarted.trans (perform_failed V hcopy hroom (hmirrors ▸ hM) htask)
        obtain ⟨fault, cause, rfl, hend⟩ | ⟨hother, hend⟩ := ending_of_error htask <;>
          rw [hend] at hrun
        · refine ⟨fun _ => by rw [hrun]; exact htouched, ?_, fun _ _ => .inl ⟨fault, by rw [hrun]⟩⟩
          intro invocation' hinvocation fault'
          obtain rfl : invocation = invocation' := Except.ok.inj (htexts.symm.trans hinvocation)
          simp [hrun, hstart, htask]
        · refine ⟨fun _ => by rw [hrun]; exact htouched, ?_, fun _ _ => .inr ⟨e, by rw [hrun]⟩⟩
          intro invocation' hinvocation fault'
          obtain rfl : invocation = invocation' := Except.ok.inj (htexts.symm.trans hinvocation)
          simp [hrun, hstart, htask, hother]
      · have hdone : run reach limits texts c = (.ok .done, c₁) := by
          rw [hrun, ending, htask]
        refine ⟨fun hne => absurd (by rw [hdone]) hne, ?_, fun _ hne => absurd (by rw [hdone]) hne⟩
        intro invocation' hinvocation fault
        obtain rfl : invocation = invocation' := Except.ok.inj (htexts.symm.trans hinvocation)
        simp [hdone, hstart, htask]

/-- A service over a backend that is there already. -/
theorem reaches_create {b : Backend σ τ} (V : b.View) :
    Reaches (fun settings bucket => Service.create settings bucket (Action.pure b))
      fun s => (V.holds s).object where
  keeps settings bucket := by
    intro W
    unfold Service.create
    cases (Service.given bucket).or (Service.given settings.bucket) <;> rfl
  view {settings bucket W service W'} h := by
    unfold Service.create at h
    cases hbucket : (Service.given bucket).or (Service.given settings.bucket) <;>
      rw [hbucket] at h <;> cases h
    exact ⟨V, rfl⟩

end

/-! ### An interrupted upload -/

/-- A service over a store in memory where completing an upload is interrupted. -/
def reachInterrupted (settings : Settings) (bucket : Option String) :
    Action (World Store.MemoryStore) (Service Store.MemoryStore Store.Stream) :=
  Service.create settings bucket (Action.pure
    (Store.memoryBackend (.ofRules [⟨.completeUpload, none, .raise .interrupted⟩]) fun _ => {}))

def lettersHere : Console Store.MemoryStore :=
  { world := { store := {} }, files := ({} : Files).put ["f"] letters }

/-- The upload is interrupted with its parts in the store already, and nothing comes of it. -/
theorem untouched_by_interrupted_upload :
    (run reachInterrupted oddLimits ["--bucket", "b", "upload", "f", "k"] lettersHere).1 =
        .error .interrupted ∧
      Atomic reachInterrupted oddLimits (fun s o => s.contents.object? o)
        ["--bucket", "b", "upload", "f", "k"] lettersHere :=
  ⟨by cbv, done_or_untouched (reaches_create (Store.memoryView _ _)) (by decide) (by decide)
    (fun _ hm => by cases hm) _⟩

end CommandLine

end ObjectChannel
