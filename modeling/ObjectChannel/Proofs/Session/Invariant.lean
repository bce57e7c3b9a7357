/-
How a session stands to its history: the store holds what was decided last, every channel is where its
life has led it, and the uploads of open writers are in the store, each writer's its own. Opening
channels and the commands of the service itself keep that.
-/
import ObjectChannel.Proofs.Reader.Looks
import ObjectChannel.Proofs.Session.History
import ObjectChannel.Proofs.Writer.Apart

namespace ObjectChannel.Session

variable {σ τ : Type} {service : Service σ τ} {V : service.backend.View} {limits : Limits}
  {names : ContentType.NameTypes} {sound : σ → Prop} {honest : τ → Prop}

/-! ## Channels and their lives -/

/-- A channel is where its life has led it: an open writer has a draft of all that was accepted, and
an open mirrored channel has the file of bytes in its mirror. -/
inductive Fits (V : service.backend.View) (limits : Limits) (h : Holdings) (l : Life σ) :
    Channel → Prop where
  | writer {name key contentType metadata o w}
    (opening : l.opening.command = .openWriter name key contentType metadata)
    (ho : service.objectId key = .ok o) (hw : w.object = o)
    (hd : w.closed = false → w.Draft limits V.keep h l.accepted) : Fits V limits h l (.writer w)
  | reader {name key position r} (opening : l.opening.command = .openReader name key position) :
    Fits V limits h l (.reader r)
  | mirrored {name key q o os m} (opening : l.opening.command = .openChannel name key q)
    (ho : service.objectId key = .ok o) (hos : OpenOptions.ofGiven q.options = .ok os)
    (hm : m.object = o ∧ m.options = os)
    (hf : m.closed = false → m.file.IsFor os ∧ m.file.bytes = l.file V limits.platform o os) :
    Fits V limits h l (.mirrored m)

theorem Fits.of_upload_eq {h h' : Holdings} {l : Life σ} {c : Channel} (hc : Fits V limits h l c)
    (hu : ∀ w, c = .writer w → w.closed = false → ∀ id, w.uploadId = some id →
      h'.upload id = h.upload id) : Fits V limits h' l c := by
  cases hc with
  | writer opening ho hw hd =>
    exact .writer opening ho hw fun hopen => (hd hopen).of_upload_eq (hu _ rfl hopen)
  | reader opening => exact .reader opening
  | mirrored opening ho hos hm hf => exact .mirrored opening ho hos hm hf

/-- The upload of an open writer, where it has one. -/
def openUpload : Channel → Option String
  | .writer w => if w.closed then none else w.uploadId
  | _ => none

theorem openUpload_writer {w : Writer} {id : String} :
    openUpload (.writer w) = some id ↔ w.closed = false ∧ w.uploadId = some id := by
  cases hc : w.closed <;> simp [openUpload, hc]

theorem openUpload_reader {r : Reader} {id : String} : openUpload (.reader r) ≠ some id := by
  simp [openUpload]

theorem openUpload_mirrored {m : Mirrored} {id : String} : openUpload (.mirrored m) ≠ some id := by
  simp [openUpload]

/-- The store knows the upload of an open writer. -/
theorem Fits.known {h : Holdings} {l : Life σ} {c : Channel} (hc : Fits V limits h l c)
    {id : String} (hid : openUpload c = some id) : h.upload id ≠ none := by
  cases hc with
  | writer opening ho hw hd =>
    obtain ⟨hopen, hid⟩ := openUpload_writer.mp hid
    obtain ⟨sent, hdep, -⟩ := (hd hopen).deposit
    cases hdep with
    | nothing hid' => simp [hid] at hid'
    | upload hid' _ _ hu =>
      obtain rfl := Option.some.inj (hid.symm.trans hid')
      rw [hu]
      exact Option.some_ne_none _
  | reader | mirrored => cases hid

/-! ## The invariant -/

/-- How a session stands to its history, over a store that held `initial` at first. -/
structure Kept (V : service.backend.View) (limits : Limits) (sound : σ → Prop)
    (initial : ObjectId → Option Bytes) (p : Told σ) : Prop where
  sound : sound p.2.world.store
  content : ∀ o, (V.holds p.2.world.store).bytes o = decided service V limits.platform o (initial o) p.1
  life : ∀ name c, p.2.channels.get? name = some c →
    ∃ l, life? name p.1 = some l ∧ Fits V limits (V.holds p.2.world.store) l c
  apart : ∀ name name' c c' id, name ≠ name' → p.2.channels.get? name = some c →
    p.2.channels.get? name' = some c' → openUpload c = some id → openUpload c' ≠ some id

variable {initial : ObjectId → Option Bytes} {past : List (Step σ)} {s s' : Session σ} {t : Step σ}

/-- What a step has to leave for the invariant to be kept: the decided content; the other channels,
with their uploads; and its own channel with the life that it has now and an upload of its own. -/
theorem Kept.next (hk : Kept V limits sound initial (past, s)) (hs : sound s'.world.store)
    (hcontent : ∀ o, (V.holds s'.world.store).bytes o =
      decided service V limits.platform o (initial o) (t :: past))
    (hothers : ∀ name, t.command.channel? ≠ some name →
      s'.channels.get? name = s.channels.get? name)
    (huploads : ∀ name c id, t.command.channel? ≠ some name → s.channels.get? name = some c →
      openUpload c = some id →
      (V.holds s'.world.store).upload id = (V.holds s.world.store).upload id)
    (hown : ∀ name c, t.command.channel? = some name → s'.channels.get? name = some c →
      (∃ l, life? name (t :: past) = some l ∧ Fits V limits (V.holds s'.world.store) l c) ∧
        ∀ id, openUpload c = some id → ∀ name' c', name' ≠ name →
          s.channels.get? name' = some c' → openUpload c' ≠ some id) :
    Kept V limits sound initial (t :: past, s') := by
  refine ⟨hs, hcontent, fun name c hc => ?_, fun name name' c c' id hne hc hc' hid => ?_⟩
  · by_cases hname : t.command.channel? = some name
    · exact (hown name c hname hc).1
    · have hc : s.channels.get? name = some c := by rw [← hothers name hname, hc]
      obtain ⟨l, hl, hfits⟩ := hk.life name c hc
      obtain ⟨hopens, huse⟩ := opens_of_other hname
      refine ⟨l, (life?_of_other hopens huse).trans hl, hfits.of_upload_eq fun w hw hopen id hid => ?_⟩
      refine huploads name c id hname hc ?_
      rw [hw]
      exact openUpload_writer.mpr ⟨hopen, hid⟩
  · by_cases hname : t.command.channel? = some name
    · have hname' : t.command.channel? ≠ some name' := by
        intro h
        exact hne (Option.some.inj (hname.symm.trans h))
      have hc' : s.channels.get? name' = some c' := by rw [← hothers name' hname', hc']
      exact (hown name c hname hc).2 id hid name' c' (Ne.symm hne) hc'
    · have hc : s.channels.get? name = some c := by rw [← hothers name hname, hc]
      by_cases hname' : t.command.channel? = some name'
      · intro hid'
        exact (hown name' c' hname' hc').2 id hid' name c hne hc hid
      · have hc' : s.channels.get? name' = some c' := by rw [← hothers name' hname', hc']
        exact hk.apart name name' c c' id hne hc hc' hid

/-- A step that leaves the channels and the store's holdings as they are. -/
theorem Kept.idle (hk : Kept V limits sound initial (past, s)) (hs : sound s'.world.store)
    (hholds : V.holds s'.world.store = V.holds s.world.store) (hchannels : s'.channels = s.channels)
    (hd : t.decision? service V limits.platform past = none)
    (hlife : ∀ name, t.opens name = false ∧ t.use? name = none) :
    Kept V limits sound initial (t :: past, s') := by
  refine ⟨hs, fun o => ?_, fun name c hc => ?_, ?_⟩
  · simp only [decided, hd, hholds]
    exact hk.content o
  · rw [hchannels] at hc
    obtain ⟨l, hl, hfits⟩ := hk.life name c hc
    rw [hholds]
    exact ⟨l, (life?_of_other (hlife name).1 (hlife name).2).trans hl, hfits⟩
  · rw [hchannels]
    exact hk.apart

/-! ## Opening -/

theorem enlist_apply (name : String) (x : Action (World σ) Channel) (s : Session σ) :
    enlist name x s =
      match x s.world with
      | (.ok c, W) => (.ok .none, { channels := s.channels.insert name c, world := W })
      | (.error e, W) => (.error e, { s with world := W }) := by
  simp only [enlist, Action.bind_apply, onWorld, Action.zoom_apply]
  rcases x s.world with ⟨_ | _, _⟩ <;> rfl

/-- A step that opens a channel, or fails to, and only looks at the store. -/
theorem Kept.opening (hk : Kept V limits sound initial (past, s)) (hu : V.NamesUploads sound)
    (name : String) {x : Action (World σ) Channel} {command : Command}
    (hcommand : command.channel? = some name) (huse : ∀ op, command ≠ .use name op)
    (hlook : service.backend.Looks s.world.store (x s.world).2.store)
    (hfits : ∀ c, (x s.world).1 = .ok c → openUpload c = none ∧
      Fits V limits (V.holds s.world.store) ⟨⟨command, s, .ok .none⟩, []⟩ c) :
    Kept V limits sound initial
      (⟨command, s, (enlist name x s).1⟩ :: past, (enlist name x s).2) := by
  obtain ⟨es, hr, hl⟩ := hlook
  have hholds := V.holds_of_looks hr hl
  have hs := hu.sound_of_runs hr hk.sound
  have hother {r : Except Failure Answer} {name' : String} (h : name' ≠ name) :
      (⟨command, s, r⟩ : Step σ).command.channel? ≠ some name' := by
    show command.channel? ≠ some name'
    rw [hcommand]
    exact fun h' => h (Option.some.inj h').symm
  have hdecision (r : Except Failure Answer) :
      (⟨command, s, r⟩ : Step σ).decision? service V limits.platform past = none := by
    unfold Step.decision?
    cases command with
    | use n op =>
      obtain rfl := Option.some.inj hcommand
      exact absurd rfl (huse op)
    | delete => cases hcommand
    | _ => simp
  rw [enlist_apply]
  rcases hx : x s.world with ⟨e | c, W⟩ <;> rw [hx] at hholds hs
  · refine hk.idle hs hholds rfl (hdecision _) fun name' => ⟨rfl, ?_⟩
    by_cases hn : name' = name
    · subst hn
      unfold Step.use?
      cases command with
      | use n op =>
        obtain rfl := Option.some.inj hcommand
        exact absurd rfl (huse op)
      | _ => rfl
    · exact (opens_of_other (hother hn)).2
  · obtain ⟨hupload, hfits⟩ := hfits c (by rw [hx])
    have hopens : (⟨command, s, .ok .none⟩ : Step σ).opens name = true := by
      unfold Step.opens
      cases command with
      | openWriter | openReader | openChannel =>
        obtain rfl := Option.some.inj hcommand
        simp [Except.isOk, Except.toBool]
      | use n op =>
        obtain rfl := Option.some.inj hcommand
        exact absurd rfl (huse op)
      | _ => cases hcommand
    refine hk.next hs (fun o => ?_) (fun name' hn => ?_) (fun name' c' id hn hc hid => ?_)
      fun name' c' hn hc => ?_
    · rw [decided, hdecision]
      show (V.holds W.store).bytes o = _
      rw [hholds]
      exact hk.content o
    · refine Table.get?_insert_other _ _ fun h => hn ?_
      rw [h]
      exact hcommand
    · show (V.holds W.store).upload id = _
      rw [hholds]
    · obtain rfl : name = name' := Option.some.inj (hcommand.symm.trans hn)
      obtain rfl : c = c' := by simpa using hc
      refine ⟨⟨_, by rw [life?, hopens]; rfl, ?_⟩, fun id hid => by simp [hupload] at hid⟩
      show Fits V limits (V.holds W.store) _ c
      rw [hholds]
      exact hfits

/-- What carrying out a command leaves, with the history. -/
def told (service : Service σ τ) (limits : Limits) (names : ContentType.NameTypes)
    (past : List (Step σ)) (s : Session σ) (c : Command) : Told σ :=
  (⟨c, s, (perform service limits names c s).1⟩ :: past, (perform service limits names c s).2)

theorem Kept.openWriter (hk : Kept V limits sound initial (past, s)) (hu : V.NamesUploads sound)
    (name key : String) (contentType : Option String) (metadata : Metadata) :
    Kept V limits sound initial
      (told service limits names past s (.openWriter name key contentType metadata)) := by
  refine hk.opening hu name rfl (fun _ h => by cases h) ?_ fun c hc => ?_
  · rw [Action.map_apply]
    exact .refl _
  · rw [Action.map_apply, Action.ofExcept_apply] at hc
    cases ho : service.objectId key with
    | error e =>
      simp only [Service.openWriter, ho] at hc
      cases hc
    | ok o =>
      simp only [Service.openWriter, ho] at hc
      cases hc
      exact ⟨rfl, .writer rfl ho rfl fun _ => .initial _ _ _ _ _⟩

theorem Kept.openReader (hk : Kept V limits sound initial (past, s)) (hu : V.NamesUploads sound)
    (name key : String) (position : Int) :
    Kept V limits sound initial
      (told service limits names past s (.openReader name key position)) := by
  refine hk.opening hu name rfl (fun _ h => by cases h) ?_ fun c hc => ?_
  · rw [Action.map_apply]
    exact .refl _
  · rw [Action.map_apply, Action.ofExcept_apply] at hc
    cases hx : service.openReader key position with
    | error e =>
      rw [hx] at hc
      cases hc
    | ok r =>
      rw [hx] at hc
      cases hc
      exact ⟨rfl, .reader rfl⟩

theorem openChannel_looks (key : String) (q : OpenRequest) (W : World σ) :
    service.backend.Looks W.store (service.openChannel limits key q W).2.store := by
  cases ho : service.objectId key with
  | error e =>
    simp only [Service.openChannel, Action.bind_apply, Action.ofExcept_apply, ho]
    exact .refl _
  | ok o =>
    simp only [Service.openChannel, Action.bind_apply, Action.ofExcept_apply, ho]
    let request : OpenRequest := { q with
      directory := service.settings.mirrorDirectory
      detects := service.settings.detectsContentType }
    obtain ⟨es, hm, hr⟩ := Mirrored.open_move
      (rfl : Mirrored.open service.backend limits o request W = _)
    exact ⟨es, hr, hm.looks⟩

/-- A channel that was opened has in its mirror what the store held. -/
theorem openChannel_ok (hg : V.GivesAll honest) {key : String} {q : OpenRequest} {W W' : World σ}
    {m : Mirrored} (h : service.openChannel limits key q W = (.ok m, W')) :
    ∃ o os, service.objectId key = .ok o ∧ OpenOptions.ofGiven q.options = .ok os ∧
      (m.object = o ∧ m.options = os) ∧
      m.file = LocalFile.opened os ((V.holds W.store).original o os) := by
  cases ho : service.objectId key with
  | error e =>
    simp only [Service.openChannel, Action.bind_apply, Action.ofExcept_apply, ho] at h
    cases h
  | ok o =>
    simp only [Service.openChannel, Action.bind_apply, Action.ofExcept_apply, ho] at h
    cases hos : OpenOptions.ofGiven q.options with
    | error e =>
      simp only [Mirrored.open, Action.bind_apply, Action.ofExcept_apply, hos] at h
      cases h
    | ok os =>
      obtain ⟨hm, -, -⟩ := Mirrored.open_ok_of_fetch (V := V) h hos
        fun _ _ _ _ fetch hr => fetch.gives hg hr
      exact ⟨o, os, rfl, rfl, by rw [hm]; exact ⟨rfl, rfl⟩, by rw [hm]; rfl⟩

theorem Kept.openChannel (hk : Kept V limits sound initial (past, s)) (hu : V.NamesUploads sound)
    (hg : V.GivesAll honest) (name key : String) (q : OpenRequest) :
    Kept V limits sound initial (told service limits names past s (.openChannel name key q)) := by
  refine hk.opening hu name rfl (fun _ h => by cases h) ?_ fun c hc => ?_
  · rw [Action.map_apply]
    exact openChannel_looks key q s.world
  · rw [Action.map_apply] at hc
    rcases hx : service.openChannel limits key q s.world with ⟨e | m, W⟩
    · rw [hx] at hc
      cases hc
    · rw [hx] at hc
      cases hc
      obtain ⟨o, os, ho, hos, hm, hfile⟩ := openChannel_ok hg hx
      refine ⟨rfl, .mirrored rfl ho hos hm fun _ => ?_⟩
      rw [hfile]
      refine ⟨LocalFile.opened_isFor os _, LocalFile.opened_bytes fun ht => ?_⟩
      exact if_pos (Bool.and_eq_true_iff.mp ht).2

/-! ## Commands of the service -/

theorem objectExists_apply {key : String} {o : ObjectId} (ho : service.objectId key = .ok o)
    (W : World σ) :
    service.objectExists key W =
      (((service.backend.call (.head o) W.store).1.mapError (Failure.raisedIn .probe o)).map
        (·.found), W.answered service.backend (.head o)) := by
  simp only [Service.objectExists, Action.bind_apply, Action.ofExcept_apply, ho, Mirrored.probe,
    Action.mapFailure_apply, World.request_apply]
  cases (service.backend.call (.head o) W.store).1 <;> rfl

theorem delete_apply {key : String} {o : ObjectId} (ho : service.objectId key = .ok o)
    (W : World σ) :
    service.delete key W =
      ((service.backend.call (.delete o) W.store).1.mapError (Failure.raisedIn .delete o),
        W.answered service.backend (.delete o)) := by
  simp only [Service.delete, Action.bind_apply, Action.ofExcept_apply, ho,
    Action.mapFailure_apply, World.request_apply]
  rfl

/-- Exposing the metrics leaves everything but the log and the sockets as it is. -/
theorem exposeMetrics_leaves (service : Service σ τ) (W : World σ) :
    ∃ events sockets, (service.exposeMetrics W).2 = { W with events, sockets } := by
  unfold Service.exposeMetrics
  cases service.settings.metricsSocket with
  | none => exact ⟨_, _, rfl⟩
  | some socket => cases service.settings.metricsEnabled <;> exact ⟨_, _, rfl⟩

/-- A successful answer tells whether the object is there. -/
theorem there_of_objectExists (V : service.backend.View) {key : String} {o : ObjectId}
    (ho : service.objectId key = .ok o) {there : Bool}
    (h : (perform service limits names (.objectExists key) s).1 = .ok (.flag there)) :
    there = ((V.holds s.world.store).bytes o).isSome := by
  have h : (do return Answer.flag (← (service.objectExists key s.world).1)) =
      Except.ok (Answer.flag there) := by
    rw [← h]
    simp only [perform, Action.bind_apply, onWorld, Action.zoom_apply]
    cases (service.objectExists key s.world).1 <;> rfl
  rw [objectExists_apply ho] at h
  rcases hx : service.backend.call (.head o) s.world.store with ⟨e | x, s'⟩
  · rw [hx] at h
    cases h
  · rw [hx] at h
    cases h
    exact (V.found_head hx).trans Option.isSome_map.symm

theorem Kept.objectExists (hk : Kept V limits sound initial (past, s)) (hu : V.NamesUploads sound)
    (key : String) :
    Kept V limits sound initial (told service limits names past s (.objectExists key)) := by
  have hlook : service.backend.Looks s.world.store (service.objectExists key s.world).2.store := by
    cases ho : service.objectId key with
    | error e =>
      simp only [Service.objectExists, Action.bind_apply, Action.ofExcept_apply, ho]
      exact .refl _
    | ok o =>
      rw [objectExists_apply ho]
      refine ⟨_, .answered (b := service.backend) (W := s.world) rfl, fun x hx => ?_⟩
      rw [List.mem_singleton.mp hx]
      rfl
  obtain ⟨es, hr, hl⟩ := hlook
  have hstate : (perform service limits names (.objectExists key) s).2 =
      { s with world := (service.objectExists key s.world).2 } := by
    exact Action.map_state (onWorld (service.objectExists key)) Answer.flag s
  refine hk.idle ?_ ?_ ?_ ?_ fun name => ⟨?_, rfl⟩
  · rw [hstate]
    exact hu.sound_of_runs hr hk.sound
  · rw [hstate]
    exact V.holds_of_looks hr hl
  · rw [hstate]
  · simp [Step.decision?]
  · simp [Step.opens]

theorem Kept.delete (hk : Kept V limits sound initial (past, s)) (hu : V.NamesUploads sound)
    (key : String) :
    Kept V limits sound initial (told service limits names past s (.delete key)) := by
  have hperform : perform service limits names (.delete key) s =
      ((service.delete key s.world).1.map fun _ => Answer.none,
        { s with world := (service.delete key s.world).2 }) := by
    simp only [perform, Action.bind_apply, onWorld, Action.zoom_apply]
    cases (service.delete key s.world).1 <;> rfl
  rw [told, hperform]
  cases ho : service.objectId key with
  | error e =>
    have hx : service.delete key s.world = (.error e, s.world) := by
      simp only [Service.delete, Action.bind_apply, Action.ofExcept_apply, ho]
    rw [hx]
    exact hk.idle hk.sound rfl rfl rfl fun name => ⟨rfl, rfl⟩
  | ok o =>
    rw [delete_apply ho]
    rcases hc : service.backend.call (.delete o) s.world.store with ⟨e | u, s'⟩
    · have hstore : (s.world.answered service.backend (.delete o)).store = s' := by
        rw [World.answered_store, hc]
      refine hk.idle ?_ ?_ rfl rfl fun name => ⟨rfl, rfl⟩
      · rw [hstore]
        exact hu.call hk.sound hc
      · rw [hstore]
        exact V.call_error hc
    · have hstore : (s.world.answered service.backend (.delete o)).store = s' := by
        rw [World.answered_store, hc]
      have hholds : V.holds s' = (V.holds s.world.store).setObject o none :=
        V.call_ok (r := .delete o) trivial hc
      have hnone {name : String} : (Command.delete key).channel? ≠ some name := by simp [Command.channel?]
      refine hk.next ?_ (fun k => ?_) (fun _ _ => rfl) (fun name c id _ _ _ => ?_)
        fun name c hn => absurd hn hnone
      · rw [hstore]
        exact hu.call hk.sound hc
      · have hd : (⟨.delete key, s, .ok .none⟩ : Step σ).decision? service V limits.platform past =
            some (o, none) := by
          simp [Step.decision?, ho, Except.toOption, Except.isOk, Except.toBool]
        show (V.holds (s.world.answered service.backend (.delete o)).store).bytes k = _
        rw [hstore, hholds, Holdings.bytes_setObject, hk.content k]
        show _ = decided service V limits.platform k (initial k) (⟨.delete key, s, .ok .none⟩ :: past)
        simp only [decided, hd, Option.map_none]
      · rw [hstore, hholds, Holdings.setObject_upload]

end ObjectChannel.Session
