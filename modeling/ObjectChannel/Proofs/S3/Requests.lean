/-
What the service is asked for on behalf of channels. The client makes at most one request to the service
for each request of a channel, about the same object, and what it says about one that is to be created
comes from the settings and from what the channel says. What the service has noted is therefore an
account of what passed, and the service is where it is because of what it has noted.
-/
import ObjectChannel.Proofs.S3.Notes
import ObjectChannel.Proofs.Session.Passage

namespace ObjectChannel.S3

/-- A request to the service for a request of a channel: about the same object, and with what the
settings make of what the channel says about it. -/
structure Leads (settings : Settings) (r : ObjectChannel.Request) (q : Request) : Prop where
  object : q.object = r.object
  params : q.params? = r.info?.map (Client.writeParams settings)

/-! ## One request at most -/

section

variable {σ τ α β : Type} {send : Dispatch σ τ} {ask : Request → Prop}

/-- The action makes at most one request, and does nothing else to the service. -/
def AsksOnce (send : Dispatch σ τ) (ask : Request → Prop) (x : Action σ α) : Prop :=
  ∀ s, (x s).2 = s ∨ ∃ q, ask q ∧ (x s).2 = (send q s).2

namespace AsksOnce

variable {x : Action σ α}

theorem of_keeps (hx : x.Keeps id) : AsksOnce send ask x := fun s => .inl (hx s)

theorem asked {q : Request} (hq : ask q) : AsksOnce send ask (send q) := fun _ => .inr ⟨q, hq, rfl⟩

/-- The request may come after something that makes none. -/
theorem after {k : α → Action σ β} (hx : x.Keeps id) (hk : ∀ a, AsksOnce send ask (k a)) :
    AsksOnce send ask (x >>= k) := by
  intro s
  have h := hx s
  rw [Action.bind_apply]
  rcases hs : x s with ⟨e | a, s'⟩ <;> rw [hs] at h <;> obtain rfl : s' = s := h
  · exact .inl rfl
  · exact hk a s'

/-- What comes after the request makes no other. -/
theorem bind {k : α → Action σ β} (hx : AsksOnce send ask x) (hk : ∀ a, (k a).Keeps id) :
    AsksOnce send ask (x >>= k) := by
  intro s
  have h := hx s
  rw [Action.bind_apply]
  rcases hs : x s with ⟨e | a, s'⟩ <;> rw [hs] at h
  · exact h
  · have hk : (k a s').2 = s' := hk a s'
    rw [hk]
    exact h

theorem recover {handle : Failure → Action σ α} (hx : AsksOnce send ask x)
    (hh : ∀ e, (handle e).Keeps id) : AsksOnce send ask (x.recover handle) := by
  intro s
  have h := hx s
  rw [Action.recover_apply]
  rcases hs : x s with ⟨e | a, s'⟩ <;> rw [hs] at h
  · have hh : (handle e s').2 = s' := hh e s'
    cases he : e.isInterrupt with
    | true => simpa only [he, ite_true] using h
    | false =>
      simp only [he, Bool.false_eq_true, ite_false, hh]
      exact h
  · exact h

theorem mapFailure (hx : AsksOnce send ask x) (f : Failure → Failure) :
    AsksOnce send ask (x.mapFailure f) := hx.recover fun _ => .fail _

theorem map (hx : AsksOnce send ask x) (f : α → β) : AsksOnce send ask (f <$> x) := by
  intro s
  rw [Action.map_apply]
  exact hx s

end AsksOnce

namespace Client

open ObjectChannel.Action (Keeps)

variable {nesting : Nat} {o : ObjectId}

theorem getObject_asksOnce (h : ∀ range, ask (.getObject o range)) (range : Option (Int × Int)) :
    AsksOnce send ask (getObject nesting send o range) := by
  unfold getObject
  split
  · exact ((AsksOnce.asked (h _)).mapFailure _).bind fun _ => .ofExcept _
  split
  · exact .of_keeps (.pure _)
  refine .after (.ofExcept _) fun text => .bind (.recover ((AsksOnce.asked (h _)).map _) fun e => ?_)
    fun r => ?_
  · refine (Keeps.ofExcept _).bind fun _ => ?_
    split
    · exact .pure _
    · exact .fail _
  · split
    · exact .pure _
    · exact .ofExcept _

theorem headObject_asksOnce (h : ask (.headObject o)) :
    AsksOnce send ask (headObject nesting send o) := by
  refine .bind (.recover ((AsksOnce.asked h).map _) fun e => ?_) fun r => ?_
  · refine (Keeps.ofExcept _).bind fun _ => ?_
    split
    · exact .pure _
    · exact .fail _
  · split
    · exact .pure _
    · exact (Keeps.ofExcept _).bind fun _ => (Keeps.ofExcept _).bind fun _ =>
        (Keeps.ofExcept _).bind fun _ => (Keeps.ofExcept _).bind fun _ => .pure _

/-- A request, with something to be told from the reply. -/
theorem sending_asksOnce {activity : String} {q : Request} (h : ask q) {k : Reply τ → Action σ β}
    (hk : ∀ a, (k a).Keeps id) : AsksOnce send ask (sending send activity q >>= k) :=
  ((AsksOnce.asked h).mapFailure _).bind hk

theorem beginUpload_asksOnce {settings : Settings} {info : ObjectInfo}
    (h : ask (.createUpload o (writeParams settings info))) :
    AsksOnce send ask (beginUpload nesting send settings o info) := by
  refine sending_asksOnce h fun _ => (Keeps.ofExcept _).bind fun _ => ?_
  split
  · exact (Keeps.ofExcept _).bind fun _ => .pure _
  · exact .fail _

theorem uploadPart_asksOnce {id : String} {number length : Numeral} {body : Bytes}
    (h : ∀ n size, ask (.uploadPart o id n body size)) :
    AsksOnce send ask (uploadPart nesting send o id number body length) := by
  refine .bind (.recover (.after (.ofExcept _) fun n => .after (.ofExcept _) fun size =>
    (AsksOnce.asked (h n size)).bind fun _ => .pure _) fun e => (Keeps.ofExcept _).bind fun _ => .fail _)
    fun r => (Keeps.ofExcept _).bind fun _ => ?_
  split
  · exact (Keeps.ofExcept _).bind fun _ => .pure _
  · exact .fail _

end Client

/-- **For a request of a channel the client makes at most one request**, about the same object, with what
the settings make of what the channel says. -/
theorem answer_asksOnce (nesting : Nat) (send : Dispatch σ τ) (settings : Settings)
    (r : ObjectChannel.Request) : AsksOnce send (Leads settings r) (answer nesting send settings r) := by
  cases r with
  | put o body length info =>
    refine .bind (.mapFailure (.after (.ofExcept _) fun n => .asked ⟨rfl, rfl⟩) _) fun r => ?_
    exact (Action.Keeps.ofExcept _).bind fun _ => (Action.Keeps.ofExcept _).bind fun _ => .pure _
  | get o range => exact Client.getObject_asksOnce (fun _ => ⟨rfl, rfl⟩) _
  | head o => exact Client.headObject_asksOnce ⟨rfl, rfl⟩
  | delete o => exact Client.sending_asksOnce ⟨rfl, rfl⟩ fun _ => .pure _
  | beginUpload o info => exact Client.beginUpload_asksOnce ⟨rfl, rfl⟩
  | uploadPart o id n body length last => exact Client.uploadPart_asksOnce fun _ _ => ⟨rfl, rfl⟩
  | completeUpload o id parts =>
    exact .after (.ofExcept _) fun _ => .after (.ofExcept _) fun _ =>
      Client.sending_asksOnce ⟨rfl, rfl⟩ fun _ => .pure _
  | abortUpload o id => exact Client.sending_asksOnce ⟨rfl, rfl⟩ fun _ => .pure _
  | uploadFile o path content workers info =>
    exact .after (.ofExcept _) fun _ => .bind (.mapFailure (.asked ⟨rfl, rfl⟩) _) fun _ => .pure _

end

/-! ## What the service has noted -/

section

variable {settings : Settings} {plan : Store.Plan Method CannedReply} {streams : Store.StreamPlan}
  {nesting : Nat} {s s' : Service}

theorem noted_of_call {r : ObjectChannel.Request} {x : Except Failure (r.Reply (Body Store.Stream))}
    (h : (backend settings plan streams nesting).call r s = (x, s')) :
    ∃ notes : List Call, s' = notes.foldl (Service.after plan streams) s ∧
      ∀ q, Call.request q ∈ notes → Leads settings r q := by
  obtain rfl : (answer nesting (Service.call plan streams) settings r s).2 = s' := congrArg Prod.snd h
  rcases answer_asksOnce nesting (Service.call plan streams) settings r s with hsame | ⟨q, hq, hasked⟩
  · rw [hsame]
    exact ⟨[], rfl, fun q hq => by cases hq⟩
  · rw [hasked]
    refine ⟨[.request q], rfl, fun q' hq' => ?_⟩
    obtain rfl := Call.request.inj (List.mem_singleton.mp hq')
    exact hq

theorem noted_of_close {t : Body Store.Stream} {x : Except Failure Unit}
    (h : (backend settings plan streams nesting).close t s = (x, s')) :
    ∃ notes : List Call, s' = notes.foldl (Service.after plan streams) s ∧
      ∀ q, Call.request q ∉ notes := by
  obtain rfl : (Body.close t s).2 = s' := congrArg Prod.snd h
  cases t with
  | empty => exact ⟨[], rfl, fun q hq => by cases hq⟩
  | remote t =>
    exact ⟨[.closeStream t.delivered], rfl, fun q hq => by cases List.mem_singleton.mp hq⟩

/-- **What passes is noted.** The service is where what it has noted has led it, and every request that it
has noted was made for one that a channel made. -/
theorem noted_of_runs {es : List (Exchange (Body Store.Stream))}
    (h : (backend settings plan streams nesting).Runs s es s') :
    ∃ notes : List Call, s' = notes.foldl (Service.after plan streams) s ∧
      ∀ q, Call.request q ∈ notes → ∃ r x, Exchange.call r x ∈ es ∧ Leads settings r q := by
  induction h with
  | nil => exact ⟨[], rfl, fun q hq => by cases hq⟩
  | @call r x _ _ _ es hc _ ih =>
    obtain ⟨first, rfl, hfirst⟩ := noted_of_call hc
    obtain ⟨rest, rfl, hrest⟩ := ih
    refine ⟨first ++ rest, List.foldl_append.symm, fun q hq => ?_⟩
    rcases List.mem_append.mp hq with hq | hq
    · exact ⟨r, x, .head _, hfirst q hq⟩
    · obtain ⟨r', x', hmem, hleads⟩ := hrest q hq
      exact ⟨r', x', .tail _ hmem, hleads⟩
  | @closing t x _ _ _ es hc _ ih =>
    obtain ⟨first, rfl, hfirst⟩ := noted_of_close hc
    obtain ⟨rest, rfl, hrest⟩ := ih
    refine ⟨first ++ rest, List.foldl_append.symm, fun q hq => ?_⟩
    rcases List.mem_append.mp hq with hq | hq
    · exact absurd hq (hfirst q)
    · obtain ⟨r', x', hmem, hleads⟩ := hrest q hq
      exact ⟨r', x', .tail _ hmem, hleads⟩

end

end ObjectChannel.S3
