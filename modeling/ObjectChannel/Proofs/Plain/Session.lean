/-
A session does the same over two plain stores, command by command, as long as the first store can be
asked for what the session's readers want.
-/
import ObjectChannel.Proofs.Plain.Mirrored
import ObjectChannel.Proofs.Plain.Reader
import ObjectChannel.Proofs.Plain.Writer
import ObjectChannel.Proofs.Session.Interleaving

namespace ObjectChannel

open Store (Contents)

variable {σ τ σ' τ' : Type} {b : Backend σ τ} {b' : Backend σ' τ'} {P : b.Plain} {P' : b'.Plain}

/-! ## Channels -/

namespace Channel

/-- Channels of one kind that are the same, but for the reply to storing a mirror. -/
inductive Alike : Channel → Channel → Prop where
  | writer (w : Writer) : Alike (.writer w) (.writer w)
  | reader (r : Reader) : Alike (.reader r) (.reader r)
  | mirrored (m : Mirrored) (reply : Option PutResult) :
    Alike (.mirrored m) (.mirrored { m with putResult := reply })

/-- Writers are sound; of other channels nothing is asked. -/
def Sound (c : Contents) : Channel → Prop
  | .writer w => w.Sound c
  | _ => True

theorem Sound.of_keepsUploads {c c' : Contents} {k : Channel} (h : k.Sound c)
    (hc : c.KeepsUploads c') : k.Sound c' := by
  cases k with
  | writer w => exact Writer.Sound.of_keepsUploads h hc
  | reader | mirrored => trivial

/-- A channel and a world, and others like them. -/
structure AlikeIn (P : b.Plain) (P' : b'.Plain) (c₀ : Contents) (t : Channel × World σ)
    (t' : Channel × World σ') : Prop where
  channel : Alike t.1 t'.1
  sound : t.1.Sound (P.contents t.2.store)
  world : World.Alike P P' c₀ t.2 t'.2

theorem lift_same {χ χ' α α' : Type} {A : α → α' → Prop} {c₀ : Contents} {wrap : χ → Channel}
    {wrap' : χ' → Channel} {R : χ × World σ → χ' × World σ' → Prop} {x : ChannelAction χ σ α}
    {x' : ChannelAction χ' σ' α'} {k : χ} {k' : χ'} {s : Channel × World σ} {s' : Channel × World σ'}
    (h : Same A R (x (k, s.2)) (x' (k', s'.2)))
    (hR : ∀ {t t'}, R t t' → AlikeIn P P' c₀ (wrap t.1, t.2) (wrap' t'.1, t'.2)) :
    Same A (AlikeIn P P' c₀) (lift wrap k x s) (lift wrap' k' x' s') := by
  unfold lift
  generalize x (k, s.2) = r, x' (k', s'.2) = r' at h
  cases h with
  | ok value state => exact .ok value (hR state)
  | error failure state => exact .error failure (hR state)

theorem perform_same (hall : ∀ j, P'.Reaches j) {limits : Limits}
    (hworkers : 0 < limits.parallelWorkers) (names : ContentType.NameTypes) (op : Operation)
    {c₀ : Contents} {t : Channel × World σ} {t' : Channel × World σ'} (h : AlikeIn P P' c₀ t t') :
    isUnwritten (perform ⟨b, limits, names⟩ op t).1 = true ∨
      Same (fun a a' => a'.bare = a.bare) (AlikeIn P P' c₀) (perform ⟨b, limits, names⟩ op t)
        (perform ⟨b', limits, names⟩ op t') := by
  obtain ⟨k, W⟩ := t
  obtain ⟨k', W'⟩ := t'
  obtain ⟨hk, hs, hW⟩ := h
  cases hk with
  | writer w =>
    refine .inr (lift_same ((Writer.perform_same hW hs limits names op).imp (fun h => by rw [h])
      fun h => h) ?_)
    rintro _ _ ⟨hW, hw⟩
    exact ⟨.writer _, hw, hW⟩
  | reader r =>
    obtain hbeyond | hsame := Reader.perform_same hall hW limits names op r
    · exact .inl hbeyond
    · refine .inr (lift_same hsame ?_)
      rintro _ _ ⟨hW⟩
      exact ⟨.reader _, trivial, hW⟩
  | mirrored m reply =>
    refine .inr (lift_same (Mirrored.perform_same hW m reply hworkers names op) ?_)
    rintro _ _ ⟨hW⟩
    exact ⟨.mirrored _ _, trivial, hW⟩

end Channel

/-! ## Sessions -/

/-- Any world is as it was when it was as it is now. -/
theorem World.Alike.anew {c₀ : Contents} {W : World σ} {W' : World σ'}
    (h : World.Alike P P' c₀ W W') : World.Alike P P' (P.contents W.store) W W' :=
  ⟨h.contents, h.mirrors, h.namesFree, .refl _⟩

namespace Session

/-- Sessions with channels that are the same, in worlds that are alike. -/
structure Alike (P : b.Plain) (P' : b'.Plain) (s : Session σ) (s' : Session σ') : Prop where
  channels : ∀ name, Option.Rel Channel.Alike (s.channels.get? name) (s'.channels.get? name)
  sound : ∀ name c, s.channels.get? name = some c → c.Sound (P.contents s.world.store)
  world : World.Alike P P' (P.contents s.world.store) s.world s'.world

variable {s : Session σ} {s' : Session σ'} (h : Alike P P' s s')

include h

theorem Alike.withWorld {W : World σ} {W' : World σ'}
    (hW : World.Alike P P' (P.contents s.world.store) W W') :
    Alike P P' { s with world := W } { s' with world := W' } where
  channels := h.channels
  sound name c hc := (h.sound name c hc).of_keepsUploads hW.keepsUploads
  world := hW.anew

theorem Alike.withChannel {W : World σ} {W' : World σ'} (name : String) {c : Channel} {c' : Channel}
    (hc : Channel.AlikeIn P P' (P.contents s.world.store) (c, W) (c', W')) :
    Alike P P' { channels := s.channels.insert name c, world := W }
      { channels := s'.channels.insert name c', world := W' } where
  channels k := by
    by_cases hk : k = name
    · rw [hk, Table.get?_insert_self, Table.get?_insert_self]
      exact .some hc.channel
    · rw [Table.get?_insert_other _ _ hk, Table.get?_insert_other _ _ hk]
      exact h.channels k
  sound k c₁ hk := by
    by_cases hname : k = name
    · rw [hname, Table.get?_insert_self] at hk
      obtain rfl := Option.some.inj hk
      exact hc.sound
    · rw [Table.get?_insert_other _ _ hname] at hk
      exact (h.sound k c₁ hk).of_keepsUploads hc.world.keepsUploads
  world := hc.world.anew

theorem onWorld_same {α α' : Type} {A : α → α' → Prop} {x : Action (World σ) α}
    {x' : Action (World σ') α'}
    (hx : Same A (World.Alike P P' (P.contents s.world.store)) (x s.world) (x' s'.world)) :
    Same A (Alike P P') (onWorld x s) (onWorld x' s') := by
  rw [onWorld, onWorld, Action.zoom_apply, Action.zoom_apply]
  generalize x s.world = r, x' s'.world = r' at hx
  cases hx with
  | ok value state => exact .ok value (h.withWorld state)
  | error failure state => exact .error failure (h.withWorld state)

theorem enlist_same (name : String) {x : Action (World σ) Channel} {x' : Action (World σ') Channel}
    (hx : Same (fun c c' => Channel.Alike c c' ∧ ∀ contents, c.Sound contents)
      (World.Alike P P' (P.contents s.world.store)) (x s.world) (x' s'.world)) :
    Same Eq (Alike P P') (enlist name x s) (enlist name x' s') := by
  rw [enlist_apply, enlist_apply]
  generalize x s.world = r, x' s'.world = r' at hx
  cases hx with
  | ok value state => exact .ok rfl (h.withChannel name ⟨value.1, value.2 _, state⟩)
  | error failure state => exact .error failure (h.withWorld state)

theorem use_same (hall : ∀ j, P'.Reaches j) {limits : Limits} (hworkers : 0 < limits.parallelWorkers)
    (names : ContentType.NameTypes) (name : String) (op : Operation) :
    isUnwritten (use ⟨b, limits, names⟩ name op s).1 = true ∨
      Same (fun a a' => a'.bare = a.bare) (Alike P P') (use ⟨b, limits, names⟩ name op s)
        (use ⟨b', limits, names⟩ name op s') := by
  have hchannel := h.channels name
  generalize hc : s.channels.get? name = x, hc' : s'.channels.get? name = x' at hchannel
  cases hchannel with
  | none =>
    simp only [use, hc, hc']
    exact .inr (.error rfl h)
  | @some c c' halike =>
    rw [use_of_channel _ op hc, use_of_channel _ op hc']
    have hin : Channel.AlikeIn P P' (P.contents s.world.store) (c, s.world) (c', s'.world) :=
      ⟨halike, h.sound name c hc, h.world⟩
    obtain hbeyond | hsame := Channel.perform_same hall hworkers names op hin
    · exact .inl hbeyond
    · right
      generalize Channel.perform ⟨b, limits, names⟩ op (c, s.world) = r,
        Channel.perform ⟨b', limits, names⟩ op (c', s'.world) = r' at hsame
      cases hsame with
      | ok value state => exact .ok value (h.withChannel name state)
      | error failure state => exact .error failure (h.withChannel name state)

/-! ## Commands of the service -/

section

variable (settings : Settings) (bucket key : String)

omit h in
/-- A writer that is opened has no parts and no upload. -/
theorem openWriter_sound {service : Service σ τ} {contentType : Option String} {metadata : Metadata}
    {w : Writer} (hw : service.openWriter key contentType metadata = .ok w) (c : Contents) :
    w.Sound c := by
  unfold Service.openWriter at hw
  cases ho : service.objectId key with
  | error e =>
    rw [ho] at hw
    cases hw
  | ok o =>
    rw [ho] at hw
    cases hw
    exact .of_idle rfl rfl

omit h in
/-- What is done with the object of a key, if there can be one. -/
theorem withObject_same {S S' α α' : Type} {A : α → α' → Prop} {R : S → S' → Prop} {t : S} {t' : S'}
    {f : ObjectId → Action S α} {f' : ObjectId → Action S' α'} (ht : R t t')
    (hf : ∀ o, Same A R (f o t) (f' o t')) :
    Same A R ((Action.ofExcept (Service.objectId ⟨settings, bucket, b⟩ key) >>= f) t)
      ((Action.ofExcept (Service.objectId ⟨settings, bucket, b'⟩ key) >>= f') t') := by
  have hobject : Service.objectId ⟨settings, bucket, b'⟩ key =
      Service.objectId ⟨settings, bucket, b⟩ key := rfl
  rw [Action.bind_apply, Action.bind_apply, Action.ofExcept_apply, Action.ofExcept_apply, hobject]
  cases Service.objectId ⟨settings, bucket, b⟩ key with
  | error e => exact .error rfl ht
  | ok o => exact hf o

theorem openChannel_same (limits : Limits) (q : OpenRequest) :
    Same Eq (World.Alike P P' (P.contents s.world.store))
      (Service.openChannel ⟨settings, bucket, b⟩ limits key q s.world)
      (Service.openChannel ⟨settings, bucket, b'⟩ limits key q s'.world) :=
  withObject_same settings bucket key h.world fun o => Mirrored.open_same h.world limits o _

theorem objectExists_same :
    Same Eq (World.Alike P P' (P.contents s.world.store))
      (Service.objectExists ⟨settings, bucket, b⟩ key s.world)
      (Service.objectExists ⟨settings, bucket, b'⟩ key s'.world) := by
  refine withObject_same settings bucket key h.world fun o => ?_
  exact (Mirrored.probe_same ⟨h.world, rfl⟩ o).imp (fun h => h.1) fun h => h.1

theorem delete_same :
    Same Eq (World.Alike P P' (P.contents s.world.store))
      (Service.delete ⟨settings, bucket, b⟩ key s.world)
      (Service.delete ⟨settings, bucket, b'⟩ key s'.world) := by
  refine withObject_same settings bucket key h.world fun o => ?_
  obtain ⟨_, _, hcall, hcall', -, -, -, halike⟩ := h.world.call (r := .delete o) trivial
  simp only [Action.mapFailure_apply, World.request_apply, hcall, hcall']
  exact .ok rfl halike

theorem exposeMetrics_same :
    Same Eq (World.Alike P P' (P.contents s.world.store))
      (Service.exposeMetrics ⟨settings, bucket, b⟩ s.world)
      (Service.exposeMetrics ⟨settings, bucket, b'⟩ s'.world) := by
  unfold Service.exposeMetrics
  dsimp only
  cases settings.metricsSocket with
  | none => exact .ok rfl h.world
  | some socket =>
    dsimp only
    cases settings.metricsEnabled with
    | false => exact .ok rfl h.world
    | true =>
      exact .ok rfl ⟨h.world.contents, h.world.mirrors, h.world.namesFree, h.world.keepsUploads⟩

end

/-- **A command does the same over two plain stores**, unless the first cannot be asked for what a
reader wants. Only the name of the backend shows which one it is. -/
theorem perform_same (settings : Settings) (bucket : String) (hall : ∀ j, P'.Reaches j)
    {limits : Limits} (hworkers : 0 < limits.parallelWorkers) (names : ContentType.NameTypes)
    {c : Command} (hc : c ≠ .backend) :
    isUnwritten (perform ⟨settings, bucket, b⟩ limits names c s).1 = true ∨
      Same (fun a a' => a'.bare = a.bare) (Alike P P')
        (perform ⟨settings, bucket, b⟩ limits names c s)
        (perform ⟨settings, bucket, b'⟩ limits names c s') := by
  cases c with
  | use name op => exact use_same h hall hworkers names name op
  | openWriter name key contentType metadata =>
    refine .inr ((enlist_same h name ?_).imp (fun h => by rw [h]) fun h => h)
    have hwriter : Service.openWriter ⟨settings, bucket, b'⟩ key contentType metadata =
        Service.openWriter ⟨settings, bucket, b⟩ key contentType metadata := rfl
    simp only [Action.map_apply, Action.ofExcept_apply, hwriter]
    cases hw : Service.openWriter ⟨settings, bucket, b⟩ key contentType metadata with
    | error e => exact .error rfl h.world
    | ok w => exact .ok ⟨.writer w, openWriter_sound key hw⟩ h.world
  | openReader name key position =>
    refine .inr ((enlist_same h name ?_).imp (fun h => by rw [h]) fun h => h)
    have hreader : Service.openReader ⟨settings, bucket, b'⟩ key position =
        Service.openReader ⟨settings, bucket, b⟩ key position := rfl
    simp only [Action.map_apply, Action.ofExcept_apply, hreader]
    cases Service.openReader ⟨settings, bucket, b⟩ key position with
    | error e => exact .error rfl h.world
    | ok r => exact .ok ⟨.reader r, fun _ => trivial⟩ h.world
  | openChannel name key q =>
    refine .inr ((enlist_same h name ?_).imp (fun h => by rw [h]) fun h => h)
    have hopen := openChannel_same h settings bucket key limits q
    simp only [Action.map_apply]
    generalize Service.openChannel ⟨settings, bucket, b⟩ limits key q s.world = r,
      Service.openChannel ⟨settings, bucket, b'⟩ limits key q s'.world = r' at hopen
    cases hopen with
    | error failure state => exact .error failure state
    | ok value state =>
      subst value
      exact .ok ⟨.mirrored _ _, fun _ => trivial⟩ state
  | objectExists key =>
    exact .inr ((onWorld_same h (objectExists_same h settings bucket key)).map fun h => by rw [h])
  | delete key =>
    exact .inr ((onWorld_same h (delete_same h settings bucket key)).map fun _ => rfl)
  | exposeMetrics =>
    exact .inr ((onWorld_same h (exposeMetrics_same h settings bucket)).map fun h => by rw [h])
  | objectId key => exact .inr (withObject_same settings bucket key h fun o => .ok rfl h)
  | bucket => exact .inr (.ok rfl h)
  | backend => exact absurd rfl hc

/-! ## Runs -/

/-- What a history shows, newest first: outcomes, without what led to failures. -/
def shown (past : List (Step σ)) : List (Except Failure Answer) :=
  past.map fun t => bareOutcome t.outcome

omit h in
/-- What has happened stays in the history. -/
theorem mem_run {service : Service σ τ} {limits : Limits} {names : ContentType.NameTypes}
    {cs : List Command} {p : Told σ} {t : Step σ} (ht : t ∈ p.1) :
    t ∈ (run service limits names cs p).1 := by
  induction cs generalizing p with
  | nil => exact ht
  | cons c cs ih => exact ih (.tail _ ht)

omit h in
/-- **A run shows the same over two plain stores**, and leaves the stores with the same contents. -/
theorem run_same (settings : Settings) (bucket : String) (hall : ∀ j, P'.Reaches j)
    {limits : Limits} (hworkers : 0 < limits.parallelWorkers) (names : ContentType.NameTypes)
    {cs : List Command} (hcs : ∀ c ∈ cs, c ≠ .backend) {past : List (Step σ)} {past' : List (Step σ')}
    {s : Session σ} {s' : Session σ'} (h : Alike P P' s s') (hshown : shown past' = shown past)
    (hread : ∀ t ∈ (run ⟨settings, bucket, b⟩ limits names cs (past, s)).1,
      isUnwritten t.outcome = false) :
    shown (run ⟨settings, bucket, b'⟩ limits names cs (past', s')).1 =
        shown (run ⟨settings, bucket, b⟩ limits names cs (past, s)).1 ∧
      Alike P P' (run ⟨settings, bucket, b⟩ limits names cs (past, s)).2
        (run ⟨settings, bucket, b'⟩ limits names cs (past', s')).2 := by
  induction cs generalizing past past' s s' with
  | nil => exact ⟨hshown, h⟩
  | cons c cs ih =>
    let t : Step σ := ⟨c, s, (perform ⟨settings, bucket, b⟩ limits names c s).1⟩
    have hmem : t ∈ (run ⟨settings, bucket, b⟩ limits names cs
        (t :: past, (perform ⟨settings, bucket, b⟩ limits names c s).2)).1 := mem_run (.head _)
    have ht : isUnwritten t.outcome = false := hread t hmem
    obtain hbeyond | hsame :=
      perform_same h settings bucket hall hworkers names (hcs c (.head _))
    · rw [show isUnwritten t.outcome = true from hbeyond] at ht
      cases ht
    · refine ih (fun c hc => hcs c (.tail _ hc)) hsame.state_rel ?_ hread
      show bareOutcome _ :: shown past' = bareOutcome _ :: shown past
      rw [hsame.bareOutcome_eq, hshown]

end Session

end ObjectChannel
