/-
What passes between a session and its store while a command is carried out. Opening, reading and asking
only look. Everything else is said on behalf of one channel that the command is for, about that
channel's object and with that channel's information; or it deletes an object.
-/
import ObjectChannel.Proofs.Session.Interleaving

namespace ObjectChannel

variable {σ τ : Type}

/-- The object that a request is about. -/
def Request.object : Request → ObjectId
  | .put o .. | .get o _ | .head o | .delete o | .beginUpload o _ | .uploadPart o .. |
    .completeUpload o .. | .abortUpload o _ | .uploadFile o .. => o

/-- What a request that creates an object says about it. -/
def Request.info? : Request → Option ObjectInfo
  | .put _ _ _ info | .beginUpload _ info | .uploadFile _ _ _ _ info => some info
  | _ => none

/-- It is about the object, and what it says about one it creates is this. -/
def Exchange.IsFor (o : ObjectId) (info : ObjectInfo) : Exchange τ → Prop
  | .call r _ => r.object = o ∧ ∀ i, r.info? = some i → i = info
  | .closing .. => True

theorem Exchange.info?_of_isLook {r : Request} {x : Except Failure (r.Reply τ)}
    (h : (call r x : Exchange τ).isLook = true) : r.info? = none := by
  cases r <;> first | rfl | cases h

/-- What a channel says about an object that it creates. A reader creates none. -/
def Channel.info? (names : ContentType.NameTypes) : Channel → Option ObjectInfo
  | .writer w => some w.info
  | .reader _ => none
  | .mirrored m => some (m.syncInfo names)

/-! ## Moves speak for their channel -/

section

variable {limits : Limits} {es : List (Exchange τ)}

namespace Writer

variable {w w' : Writer}

theorem AbortMove.isFor {r : Except Failure Unit} (m : AbortMove w es r w') :
    ∀ x ∈ es, x.IsFor w.object w.info := by
  cases m with
  | none => exact List.forall_mem_nil _
  | attempt => exact List.forall_mem_singleton.mpr ⟨rfl, fun _ h => by cases h⟩

theorem PartMove.isFor {id : String} {block : Bytes} {isLast : Bool} {r : Except Failure Unit}
    (m : PartMove w id block isLast es r w') : ∀ x ∈ es, x.IsFor w.object w.info := by
  have hpart (x : Except Failure CompletedPart) :
      (Exchange.call (w.partRequest id block isLast) x : Exchange τ).IsFor w.object w.info :=
    ⟨rfl, fun _ h => by cases h⟩
  cases m with
  | taken | interrupted => exact List.forall_mem_singleton.mpr (hpart _)
  | refused _ abort => exact List.forall_mem_cons.mpr ⟨hpart _, abort.isFor⟩

theorem UploadMove.isFor {block : Bytes} {isLast : Bool} {r : Except Failure Unit}
    (m : UploadMove w block isLast es r w') : ∀ x ∈ es, x.IsFor w.object w.info := by
  have hbegin (x : Except Failure MultipartUpload) :
      (Exchange.call (.beginUpload w.object w.info) x : Exchange τ).IsFor w.object w.info :=
    ⟨rfl, fun _ h => (Option.some.inj h).symm⟩
  cases m with
  | further _ part => exact part.isFor
  | first _ _ part => exact List.forall_mem_cons.mpr ⟨hbegin _, part.isFor⟩
  | refused | interrupted => exact List.forall_mem_singleton.mpr (hbegin _)

theorem CompleteMove.isFor {id : String} {r : Except Failure Unit} (m : CompleteMove w id es r w') :
    ∀ x ∈ es, x.IsFor w.object w.info := by
  have hcomplete (x : Except Failure Unit) :
      (Exchange.call (.completeUpload w.object id w.parts) x : Exchange τ).IsFor w.object w.info :=
    ⟨rfl, fun _ h => by cases h⟩
  cases m with
  | completed | interrupted => exact List.forall_mem_singleton.mpr (hcomplete _)
  | refused _ abort => exact List.forall_mem_cons.mpr ⟨hcomplete _, abort.isFor⟩

theorem PublishMove.isFor {r : Except Failure Unit} (m : PublishMove limits w es r w') :
    ∀ x ∈ es, x.IsFor w.object w.info := by
  cases m with
  | stored | notStored => exact List.forall_mem_singleton.mpr ⟨rfl, fun _ h => (Option.some.inj h).symm⟩
  | assembled _ _ complete => exact complete.isFor
  | extended _ _ upload complete =>
    obtain ⟨hobject, hinfo⟩ := upload.sameTarget
    have hcomplete := complete.isFor
    rw [hobject, hinfo] at hcomplete
    exact fun x hx => (List.mem_append.mp hx).elim (upload.isFor x) (hcomplete x)
  | stopped _ _ upload => exact upload.isFor

/-- **A writer speaks for itself**: all that it asks for is about its own object, with its own
information. -/
theorem Move.isFor {op : Operation} {r : Except Failure Answer} (m : w.Move limits op es r w') :
    ∀ x ∈ es, x.IsFor w.object w.info := by
  cases m with
  | write h =>
    cases h with
    | closed | notBytes | nothing | held => exact List.forall_mem_nil _
    | full _ _ _ abort => exact abort.isFor
    | sent _ _ _ _ upload => exact upload.isFor
  | close _ h =>
    cases h with
    | again => exact List.forall_mem_nil _
    | published _ publish => exact publish.isFor
  | discard _ h =>
    cases h with
    | again => exact List.forall_mem_nil _
    | dropped _ abort => exact abort.isFor
  | other => exact List.forall_mem_nil _

end Writer

/-- What a mirrored channel asks for when it is closed is about its own object, with what it says about
its mirror. -/
theorem Mirrored.CloseMove.isFor {names : ContentType.NameTypes} {m m' : Mirrored} {M M' : Mirrors}
    {r : Except Failure Unit} (h : CloseMove limits names m M es r m' M') :
    ∀ x ∈ es, x.IsFor m.object (m.syncInfo names) := by
  cases h with
  | again | unchanged => exact List.forall_mem_nil _
  | deleted => exact List.forall_mem_singleton.mpr ⟨rfl, fun _ h => by cases h⟩
  | synced _ _ _ sync =>
    cases sync with
    | lost => exact List.forall_mem_nil _
    | stored | notStored | uploaded =>
      exact List.forall_mem_singleton.mpr ⟨rfl, fun _ h => (Option.some.inj h).symm⟩

end

namespace Session

variable {service : Service σ τ} {limits : Limits} {names : ContentType.NameTypes}

/-- What passes between a session and its store while a command is carried out. -/
inductive Passage (service : Service σ τ) (limits : Limits) (names : ContentType.NameTypes)
    (s : Session σ) : Command → List (Exchange τ) → Prop where
  | looked {c es} (h : ∀ x ∈ es, x.isLook = true) : Passage service limits names s c es
  | deleted {key o} (ho : service.objectId key = .ok o) (x : Except Failure Unit) :
    Passage service limits names s (.delete key) [.call (.delete o) x]
  | written {name op w es r w'} (hc : s.channels.get? name = some (.writer w))
    (move : w.Move limits op es r w') : Passage service limits names s (.use name op) es
  | closed {name op m es r m' M'} (hc : s.channels.get? name = some (.mirrored m))
    (hop : op.isClosing = true) (move : m.CloseMove limits names s.world.mirrors es r m' M') :
    Passage service limits names s (.use name op) es

/-- What only looks at the store is a passage. -/
theorem passage_of_looks {s : Session σ} {c : Command} {st : σ}
    (h : service.backend.Looks s.world.store st) :
    ∃ es, Passage service limits names s c es ∧ service.backend.Runs s.world.store es st := by
  obtain ⟨es, hr, hl⟩ := h
  exact ⟨es, .looked hl, hr⟩

theorem enlist_store (name : String) (x : Action (World σ) Channel) (s : Session σ) :
    (enlist name x s).2.world = (x s.world).2 := by
  rw [enlist_apply]
  rcases x s.world with ⟨_ | _, _⟩ <;> rfl

theorem use_passage (s : Session σ) (name : String) (op : Operation) :
    ∃ es, Passage service limits names s (.use name op) es ∧ service.backend.Runs s.world.store es
      (use (settingOf service limits names) name op s).2.world.store := by
  let e := settingOf service limits names
  cases hc : s.channels.get? name with
  | none =>
    have huse : use e name op s = (.error .noChannel, s) := by simp only [use, hc]
    rw [huse]
    exact passage_of_looks (.refl _)
  | some c =>
    rw [use_of_channel _ op hc]
    cases c with
    | writer w =>
      rcases hp : Channel.performWriter e op (w, s.world) with ⟨r, w', W'⟩
      obtain ⟨es, move, hr⟩ := Writer.performWriter_move _ op hp
      simp only [Channel.perform, Channel.lift, e, hp]
      exact ⟨es, .written hc move, hr⟩
    | reader x => exact passage_of_looks (Reader.performReader_onlyLooks e op (x, s.world))
    | mirrored m =>
      cases hop : op.isClosing with
      | false =>
        obtain ⟨_, _, M, hm⟩ := Mirrored.performMirrored_retouched (b := e) hop (m, s.world)
        simp only [Channel.perform, Channel.lift, e, hm]
        exact passage_of_looks (.refl _)
      | true =>
        obtain ⟨es, r, move, -, hr⟩ := Mirrored.performMirrored_close e hop (m, s.world)
        exact ⟨es, .closed hc hop move, hr⟩

/-- **Whatever a command does to the store is a passage.** -/
theorem perform_passage (service : Service σ τ) (limits : Limits) (names : ContentType.NameTypes)
    (s : Session σ) (c : Command) :
    ∃ es, Passage service limits names s c es ∧ service.backend.Runs s.world.store es
      (perform service limits names c s).2.world.store := by
  cases c with
  | openWriter name key contentType metadata =>
    simp only [perform, enlist_store, Action.map_apply]
    exact passage_of_looks (.refl _)
  | openReader name key position =>
    simp only [perform, enlist_store, Action.map_apply]
    exact passage_of_looks (.refl _)
  | openChannel name key q =>
    simp only [perform, enlist_store, Action.map_apply]
    exact passage_of_looks (openChannel_looks key q s.world)
  | objectId key =>
    cases ho : service.objectId key with
    | error e =>
      simp only [perform, Action.bind_apply, Action.ofExcept_apply, ho]
      exact passage_of_looks (.refl _)
    | ok o =>
      simp only [perform, Action.bind_apply, Action.ofExcept_apply, ho]
      exact passage_of_looks (.refl _)
  | objectExists key =>
    rw [perform, Action.map_state]
    show ∃ es, _ ∧ service.backend.Runs _ es (service.objectExists key s.world).2.store
    cases ho : service.objectId key with
    | error e =>
      simp only [Service.objectExists, Action.bind_apply, Action.ofExcept_apply, ho]
      exact passage_of_looks (.refl _)
    | ok o =>
      rw [objectExists_apply ho]
      exact ⟨_, .looked (List.forall_mem_singleton.mpr rfl), .answered rfl⟩
  | delete key =>
    rw [perform, Action.map_state (f := fun _ => Answer.none)]
    show ∃ es, _ ∧ service.backend.Runs _ es (service.delete key s.world).2.store
    cases ho : service.objectId key with
    | error e =>
      simp only [Service.delete, Action.bind_apply, Action.ofExcept_apply, ho]
      exact passage_of_looks (.refl _)
    | ok o =>
      rw [delete_apply ho]
      exact ⟨_, .deleted ho _, .answered rfl⟩
  | exposeMetrics =>
    rw [perform, Action.map_state]
    show ∃ es, _ ∧ service.backend.Runs _ es (service.exposeMetrics s.world).2.store
    obtain ⟨_, _, hleaves⟩ := exposeMetrics_leaves service s.world
    rw [hleaves]
    exact passage_of_looks (.refl _)
  | bucket | backend => exact passage_of_looks (.refl _)
  | use name op => exact use_passage s name op

/-- What passes and creates an object is said on behalf of the channel that the command is for. -/
theorem Passage.creates {s : Session σ} {c : Command} {es : List (Exchange τ)}
    (h : Passage service limits names s c es) {r : Request} {x : Except Failure (r.Reply τ)}
    (hr : .call r x ∈ es) {info : ObjectInfo} (hinfo : r.info? = some info) :
    ∃ name op channel, c = .use name op ∧ s.channels.get? name = some channel ∧
      r.object = channel.object ∧ channel.info? names = some info := by
  cases h with
  | looked h => simp [Exchange.info?_of_isLook (h _ hr)] at hinfo
  | deleted =>
    cases List.mem_singleton.mp hr
    cases hinfo
  | @written name op w _ _ _ hc move =>
    obtain ⟨hobject, hsaid⟩ := move.isFor _ hr
    exact ⟨name, op, _, rfl, hc, hobject, congrArg some (hsaid info hinfo).symm⟩
  | @closed name op m _ _ _ _ hc hop move =>
    obtain ⟨hobject, hsaid⟩ := move.isFor _ hr
    exact ⟨name, op, _, rfl, hc, hobject, congrArg some (hsaid info hinfo).symm⟩

/-! ## Runs -/

/-- The session that a step has left. -/
def Step.after (service : Service σ τ) (limits : Limits) (names : ContentType.NameTypes)
    (t : Step σ) : Session σ := (perform service limits names t.command t.before).2

/-- What a step has added to a log. -/
def Step.added {α : Type} (service : Service σ τ) (limits : Limits) (names : ContentType.NameTypes)
    (log : Session σ → List α) (t : Step σ) : List α :=
  (log (t.after service limits names)).drop (log t.before).length

theorem Step.added_eq {α : Type} {log : Session σ → List α} {t : Step σ} {l : List α}
    (h : log (t.after service limits names) = log t.before ++ l) :
    t.added service limits names log = l := by
  rw [added, h, List.drop_left]

/-- What the steps of a run have added, one after the other, leads from one end of the run to the other,
if what a step has added leads on from where the step began. -/
theorem run_leads {α : Type} (service : Service σ τ) (limits : Limits) (names : ContentType.NameTypes)
    (added : Step σ → List α) (Leads : Session σ → List α → Session σ → Prop)
    (refl : ∀ s, Leads s [] s)
    (step : ∀ s c l s', Leads (perform service limits names c s).2 l s' →
      Leads s (added ⟨c, s, (perform service limits names c s).1⟩ ++ l) s')
    (cs : List Command) (past : List (Step σ)) (s : Session σ) :
    ∃ steps, (run service limits names cs (past, s)).1 = steps ++ past ∧
      Leads s (steps.reverse.flatMap added) (run service limits names cs (past, s)).2 := by
  induction cs generalizing past s with
  | nil => exact ⟨[], rfl, refl s⟩
  | cons c cs ih =>
    let t : Step σ := ⟨c, s, (perform service limits names c s).1⟩
    obtain ⟨steps, hsteps, hleads⟩ := ih (t :: past) (perform service limits names c s).2
    refine ⟨steps ++ [t], ?_, ?_⟩
    · rw [List.append_assoc]
      exact hsteps
    · rw [List.reverse_append, List.reverse_singleton, List.singleton_append, List.flatMap_cons]
      exact step s c _ _ hleads

/-- What holds of every step that can be taken holds of the steps of a run. -/
theorem forall_mem_run {P : Step σ → Prop}
    (h : ∀ s c, P ⟨c, s, (perform service limits names c s).1⟩) (cs : List Command) {p : Told σ}
    (hp : ∀ t ∈ p.1, P t) : ∀ t ∈ (run service limits names cs p).1, P t := by
  induction cs generalizing p with
  | nil => exact hp
  | cons c cs ih => exact ih (List.forall_mem_cons.mpr ⟨h p.2 c, hp⟩)

end Session

end ObjectChannel
