/-
What goes wrong with the store during an operation, and what the operation has to raise then: a failed
transfer with the failure as its cause, and an interrupt as it is. Sending a file in parallel has rules
of its own.
-/
import ObjectChannel.Channel.Operation
import ObjectChannel.Proofs.Exchange

namespace ObjectChannel

variable {σ τ : Type}

/-- The store is to forget an upload. -/
def Request.isAbort : Request → Bool
  | .abortUpload .. => true
  | _ => false

/-- A stream is asked for. -/
def Request.isGet : Request → Bool
  | .get .. => true
  | _ => false

/-- A file is sent in parallel. -/
def Request.isUploadFile : Request → Bool
  | .uploadFile .. => true
  | _ => false

/-- What an interrupt of the request goes on as. -/
def Request.interruption : Request → Failure → Failure
  | .uploadFile o .., e => .channel (.interrupted o) (some e)
  | _, e => e

theorem Request.interruption_eq {r : Request} (h : r.isUploadFile = false) (e : Failure) :
    r.interruption e = e := by
  cases r with
  | uploadFile => cases h
  | _ => rfl

/-- The kind of failure that becomes of an ordinary one, of a request or else of a stream. -/
def reportedKind : Option Request → Failure → FailureKind
  | some (.uploadFile ..), .cancelled => .interruptedTransfer
  | _, _ => .transferFailure

theorem reportedKind_call {r : Request} (h : r.isUploadFile = false) (e : Failure) :
    reportedKind (some r) e = .transferFailure := by
  cases r with
  | uploadFile => cases h
  | _ => rfl

/-- The failure that something raised. -/
def failureOf {α : Type} : Except Failure α → Option Failure
  | .error e => some e
  | .ok _ => none

/-- The failure that an operation ended with; a read into a destination tells its own there. -/
def failureIn : Except Failure Answer → Option Failure
  | .error e => some e
  | .ok (.filled _ outcome) => failureOf outcome
  | .ok _ => none

theorem failureIn_map {α : Type} (f : α → Answer) (hf : ∀ a, failureIn (.ok (f a)) = none)
    (r : Except Failure α) : failureIn (do return f (← r)) = failureOf r := by
  cases r with
  | ok a => exact hf a
  | error e => rfl

/-! ## Streams that break -/

/-- How many bytes a stream is asked for when `n` have arrived: those that are missing of a range, and
of a whole object as many as are downloaded at a time. -/
def Limits.asked (limits : Limits) : Option (Nat × Nat) → Nat → Option Nat
  | some (start, stop), n => if start + n < stop then some (stop - (start + n)) else none
  | none, _ => some limits.downloadChunk

/-- Reading a stream that `n` bytes have come from, as many at a time as `ask` says, ends with a
failing read. -/
inductive Backend.Breaks (b : Backend σ τ) (ask : Nat → Option Nat) : Nat → τ → Failure → Prop where
  | now {n t k e} (hk : ask n = some k) (h : b.read t (some k) = .error e) : Breaks b ask n t e
  | later {n t k chunk t' e} (hk : ask n = some k) (h : b.read t (some k) = .ok (chunk, t'))
    (hchunk : chunk.size ≠ 0) (rest : Breaks b ask (n + chunk.size) t' e) : Breaks b ask n t e

variable {b : Backend σ τ} {limits : Limits}

theorem Backend.Breaks.drain {start stop n : Nat} {t : τ} {e : Failure}
    (h : b.Breaks (limits.asked (some (start, stop))) n t e) (got : Bytes) :
    (Reader.drain b t (stop - (start + n)) got).ending = .error e := by
  have hasked {n k : Nat} (hk : limits.asked (some (start, stop)) n = some k) :
      start + n < stop ∧ k = stop - (start + n) := by
    simp only [Limits.asked] at hk
    split at hk <;> cases hk
    exact ⟨by assumption, rfl⟩
  induction h generalizing got with
  | now hk h =>
    obtain ⟨hlt, rfl⟩ := hasked hk
    rw [Reader.drain, if_neg (by omega), h]
  | @later n t k chunk t' e hk h hchunk rest ih =>
    obtain ⟨hlt, rfl⟩ := hasked hk
    -- more than there is room for would have been the end of it
    have hfits : start + (n + chunk.size) < stop := by
      cases rest with
      | now hk | later hk => exact (hasked hk).1
    rw [Reader.drain, if_neg (by omega), h]
    simp only [hchunk, ite_false]
    rw [if_neg (by omega), Nat.sub_sub, Nat.add_assoc]
    exact ih _

/-- The record changes no stream. -/
theorem Backend.Breaks.recorded {ask : Nat → Option Nat} {n : Nat} {t : τ} {e : Failure}
    (h : b.Breaks ask n t e) : b.recorded.Breaks ask n t e := by
  induction h with
  | now hk h => exact .now hk h
  | later hk h hchunk _ ih => exact .later hk h hchunk ih

theorem Backend.Breaks.copyStream {n : Nat} {t : τ} {e : Failure}
    (h : b.Breaks (limits.asked none) n t e) (got : Bytes) :
    ∃ t', b.copyStream limits.downloadChunk t got = some (.error e, t') := by
  induction h generalizing got with
  | now hk h =>
    cases hk
    exact ⟨_, by rw [Backend.copyStream, h]⟩
  | later hk h hchunk rest ih =>
    cases hk
    rw [Backend.copyStream, h]
    simp only [Bytes.isEmpty_eq_false hchunk, Bool.false_eq_true, ite_false]
    exact ih _

/-! ## What goes wrong -/

/-- Something that went wrong among what passed: a request, or else a stream, failed. Of a stream that
breaks and then fails to close, only the latter counts. An abort that fails is none of it. -/
inductive Backend.Trouble (b : Backend σ τ) (limits : Limits) (es : List (Exchange τ)) :
    Option Request → Failure → Prop where
  | call {r e} (h : .call r (.error e) ∈ es) (hr : r.isAbort = false) : Trouble b limits es (some r) e
  | closing {t e} (h : .closing t (.error e) ∈ es) : Trouble b limits es none e
  | reading {o range t e} (h : .call (.get o range) (.ok t) ∈ es)
    (hbreak : b.Breaks (limits.asked range) 0 t e) (hclosed : ∀ t' e', .closing t' (.error e') ∉ es) :
    Trouble b limits es none e

/-- Whatever went wrong among what passed, just that was raised. -/
structure Backend.Reports (b : Backend σ τ) (limits : Limits) (es : List (Exchange τ))
    (raised : Option Failure) : Prop where
  /-- An ordinary failure is the cause of a failure of the channel, of the kind that is due. -/
  ordinary : ∀ {request e}, b.Trouble limits es request e → e.isInterrupt = false →
    (∀ x ∈ es, x.isOrdinary = true) →
    ∃ fault, raised = some (.channel fault (some e)) ∧ fault.kind = reportedKind request e
  /-- An interrupt goes on. -/
  interrupted : ∀ {r e}, .call r (.error e) ∈ es → e.isInterrupt = true →
    raised = some (r.interruption e)

namespace Backend.Reports

variable {es es' : List (Exchange τ)} {failure : Option Failure}

theorem nil : b.Reports limits [] failure where
  ordinary h := by cases h <;> contradiction
  interrupted h := nomatch h

/-- What passes after nothing went wrong. -/
theorem after (h : b.Reports limits es none) (h' : b.Reports limits es' failure) :
    b.Reports limits (es ++ es') failure where
  ordinary := by
    intro request e htrouble he ho
    have ho₁ : ∀ x ∈ es, x.isOrdinary = true := fun x hx => ho x (List.mem_append_left _ hx)
    have ho₂ : ∀ x ∈ es', x.isOrdinary = true := fun x hx => ho x (List.mem_append_right _ hx)
    have hfirst {request} (h₁ : b.Trouble limits es request e) : False := by
      obtain ⟨fault, hnone, -⟩ := h.ordinary h₁ he ho₁
      cases hnone
    cases htrouble with
    | call hx hr =>
      rcases List.mem_append.mp hx with hx | hx
      · exact (hfirst (.call hx hr)).elim
      · exact h'.ordinary (.call hx hr) he ho₂
    | closing hx =>
      rcases List.mem_append.mp hx with hx | hx
      · exact (hfirst (.closing hx)).elim
      · exact h'.ordinary (.closing hx) he ho₂
    | reading hx hbreak hclosed =>
      rcases List.mem_append.mp hx with hx | hx
      · exact (hfirst (.reading hx hbreak fun t e h => hclosed t e (List.mem_append_left _ h))).elim
      · exact h'.ordinary (.reading hx hbreak fun t e h => hclosed t e (List.mem_append_right _ h)) he ho₂
  interrupted := by
    intro r e hx he
    rcases List.mem_append.mp hx with hx | hx
    · cases h.interrupted hx he
    · exact h'.interrupted hx he

/-- Where nothing went wrong any failure is another matter. -/
theorem harmless (h : b.Reports limits es none) : b.Reports limits es failure := by
  simpa using h.after nil

/-- A request that is answered, by no stream that breaks. -/
theorem unbroken {r : Request} {x : r.Reply τ}
    (hr : ∀ o range t e, (.call r (.ok x) : Exchange τ) = .call (.get o range) (.ok t) →
      ¬ b.Breaks (limits.asked range) 0 t e) :
    b.Reports limits [.call r (.ok x)] failure where
  ordinary h := by
    cases h with
    | call h => nomatch List.mem_singleton.mp h
    | closing h => nomatch List.mem_singleton.mp h
    | reading h hbreak => exact (hr _ _ _ _ (List.mem_singleton.mp h).symm hbreak).elim
  interrupted h := nomatch List.mem_singleton.mp h

/-- A request that is answered, and brings no stream. -/
theorem answered {r : Request} {x : r.Reply τ} (hr : r.isGet = false) :
    b.Reports limits [.call r (.ok x)] failure :=
  unbroken fun o range t e h => by
    cases h
    cases hr

/-- A request that fails is reported as a failed transfer. -/
theorem refused {r : Request} (e : Failure) (what : Transfer) (o : ObjectId)
    (hr : r.isUploadFile = false) :
    b.Reports limits [.call r (.error e)] (some (e.raisedIn what o)) where
  ordinary h he := by
    intro _
    cases h with
    | call h =>
      cases List.mem_singleton.mp h
      exact ⟨.transfer what o, by rw [Failure.raisedIn_of_ordinary he]; rfl,
        (reportedKind_call hr e).symm⟩
    | closing h => nomatch List.mem_singleton.mp h
    | reading h => nomatch List.mem_singleton.mp h
  interrupted h he := by
    cases List.mem_singleton.mp h
    rw [Request.interruption_eq hr, Failure.raisedIn, if_pos he]

/-- A request that is interrupted. -/
theorem stopped {r : Request} {e : Failure} (he : e.isInterrupt = true) (hr : r.isUploadFile = false) :
    b.Reports limits [.call r (.error e)] (some e) := by
  have h : b.Reports limits _ _ := refused e .put default hr
  rwa [Failure.raisedIn, if_pos he] at h

/-- A request that brings no stream, and whose failure is reported as a failed transfer. -/
theorem request {r : Request} (x : Except Failure (r.Reply τ)) (what : Transfer) (o : ObjectId)
    (hget : r.isGet = false) (hr : r.isUploadFile = false) :
    b.Reports limits [.call r x] (failureOf (x.mapError (Failure.raisedIn what o))) := by
  cases x with
  | ok x => exact answered hget
  | error e => exact refused e what o hr

/-- A stream that is read and closed. Where both fail it is the closing that counts. -/
theorem stream {α : Type} {o : ObjectId} {range : Option (Nat × Nat)} {t t' : τ}
    {closed : Except Failure Unit} {reading : Except Failure α} (what : Transfer)
    (hreading : ∀ e, b.Breaks (limits.asked range) 0 t e → reading = .error e) :
    b.Reports limits [.call (.get o range) (.ok t), .closing t' closed]
      (failureOf ((do closed; reading).mapError (Failure.raisedIn what o))) where
  ordinary := by
    intro request e h he _
    have hraised : failureOf ((Except.error e : Except Failure α).mapError (Failure.raisedIn what o)) =
        some (.channel (.transfer what o) (some e)) := by
      show some (e.raisedIn what o) = _
      rw [Failure.raisedIn_of_ordinary he]
      rfl
    cases h with
    | call h =>
      rcases List.mem_cons.mp h with h | h
      · cases h
      · cases List.mem_singleton.mp h
    | closing h =>
      rcases List.mem_cons.mp h with h | h
      · cases h
      · cases List.mem_singleton.mp h
        exact ⟨_, hraised, rfl⟩
    | reading h hbreak hclosed =>
      rcases List.mem_cons.mp h with h | h
      · cases h
        obtain rfl := hreading _ hbreak
        cases closed with
        | error e' => exact absurd (.tail _ (.head _)) (hclosed t' e')
        | ok u => exact ⟨_, hraised, rfl⟩
      · cases List.mem_singleton.mp h
  interrupted h := by
    rcases List.mem_cons.mp h with h | h
    · cases h
    · cases List.mem_singleton.mp h

end Backend.Reports

/-- What passed between two states of a recorded store is reported so. -/
def Backend.ReportsBetween (b : Backend σ τ) (limits : Limits) (S S' : Recorded σ τ)
    (failure : Option Failure) : Prop :=
  ∃ es, S'.log = S.log ++ es ∧ b.Reports limits es failure

theorem Backend.ReportsBetween.refl (S : Recorded σ τ) (failure : Option Failure) :
    b.ReportsBetween limits S S failure := ⟨[], by simp, .nil⟩

theorem Backend.ReportsBetween.trans {S S' S'' : Recorded σ τ} {failure : Option Failure}
    (h : b.ReportsBetween limits S S' none) (h' : b.ReportsBetween limits S' S'' failure) :
    b.ReportsBetween limits S S'' failure := by
  obtain ⟨es, hes, hreports⟩ := h
  obtain ⟨es', hes', hreports'⟩ := h'
  exact ⟨es ++ es', by rw [hes', hes, List.append_assoc], hreports.after hreports'⟩

end ObjectChannel
