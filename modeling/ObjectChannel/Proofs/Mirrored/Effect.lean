/-
What the operations of a mirrored channel do to the store, whatever its requests come to. All but
closing leave the store alone. Closing settles the channel's object, or it fails and nothing has
changed.
-/
import ObjectChannel.Proofs.Mirrored.Session

namespace ObjectChannel

/-- The operation closes a mirrored channel. -/
def Operation.isClosing : Operation → Bool
  | .close | .leave _ => true
  | _ => false

/-- The operation is the channel's own: it does not take the mirror file away behind its back. -/
def Operation.sparesMirror : Operation → Bool
  | .removeMirror => false
  | _ => true

/-- Options for reading only have no option but that. -/
theorem OpenOptions.has_of_isReadOnly {os : OpenOptions} (h : os.isReadOnly = true)
    {o : OpenOption} (ho : o ≠ .read) : os.has o = false := by
  have hlist : os.toList = [.read] := by simpa [isReadOnly] using h
  simp [has, hlist, ho]

namespace Mirrored

open ChannelAction

variable {σ τ : Type}

/-! ## Everything but closing -/

/-- What may have changed is the mirror file and the time that the object is to carry. -/
def Touched (s s' : Mirrored × World σ) : Prop :=
  ∃ l t, s' = ({ s.1 with file := l, lastModified := t }, s.2)

theorem Touched.refl (s : Mirrored × World σ) : Touched s s := ⟨s.1.file, s.1.lastModified, rfl⟩

/-- What may have changed is the mirror file, the time that the object is to carry, and the mirror
files that are there. -/
def Retouched (s s' : Mirrored × World σ) : Prop :=
  ∃ l t M, s' = ({ s.1 with file := l, lastModified := t }, { s.2 with mirrors := M })

theorem Retouched.refl (s : Mirrored × World σ) : Retouched s s :=
  ⟨s.1.file, s.1.lastModified, s.2.mirrors, rfl⟩

theorem Touched.retouched {s s' : Mirrored × World σ} (h : Touched s s') : Retouched s s' := by
  obtain ⟨l, t, rfl⟩ := h
  exact ⟨l, t, s.2.mirrors, rfl⟩

section

variable {α β : Type}

theorem onFile_touched (g : LocalFile → Except Failure (α × LocalFile)) (s : Mirrored × World σ) :
    Touched s (onFile g s).2 := by
  obtain ⟨c, W⟩ := s
  cases hc : c.closed with
  | true =>
    rw [onFile_of_closed hc]
    exact .refl _
  | false =>
    rw [onFile_apply hc]
    cases g c.file with
    | error e => exact .refl _
    | ok a => exact ⟨a.2, c.lastModified, rfl⟩

theorem map_touched {x : Step σ α} (f : α → β) {s : Mirrored × World σ}
    (h : Touched s (x s).2) : Touched s ((do return f (← x) : Step σ β) s).2 := by
  rw [Action.map_state]
  exact h

/-- An operation of the channel's own that does not close it leaves the world alone. -/
theorem performMirrored_touched {b : Channel.Setting σ τ} {op : Operation}
    (hop : op.isClosing = false) (hspares : op.sparesMirror = true) (s : Mirrored × World σ) :
    Touched s (Channel.performMirrored b op s).2 := by
  cases op with
  | close | leave => cases hop
  | removeMirror => cases hspares
  | read size => exact map_touched _ (onFile_touched _ s)
  | write data => exact map_touched _ (onFile_touched _ s)
  | truncate size => exact map_touched _ (onFile_touched _ s)
  | seek offset whence => exact map_touched _ (onFile_touched _ s)
  | setPosition p => exact map_touched (fun _ => Answer.none) (onFile_touched _ s)
  | position | tell | size | readable | writable => exact map_touched _ (onFile_touched _ s)
  | readInto buffer =>
    have h : Touched s (Mirrored.readInto b.limits.platform buffer s).2 := map_touched _ (onFile_touched _ s)
    simp only [Channel.performMirrored, Channel.fillFromMirror]
    rcases hr : Mirrored.readInto b.limits.platform buffer s with ⟨_ | _, _⟩ <;> rw [hr] at h <;> exact h
  | setLastModified t => exact ⟨s.1.file, t, rfl⟩
  | objectId | options | enter | seekable | partCount | uploadId | discard => exact .refl s

/-- An operation that does not close the channel leaves the store alone. -/
theorem performMirrored_retouched {b : Channel.Setting σ τ} {op : Operation}
    (hop : op.isClosing = false) (s : Mirrored × World σ) :
    Retouched s (Channel.performMirrored b op s).2 := by
  cases hspares : op.sparesMirror with
  | true => exact (performMirrored_touched hop hspares s).retouched
  | false =>
    cases op with
    | removeMirror =>
      show Retouched s ((do Channel.unlinkMirror; return Answer.none : Step σ Answer) s).2
      rw [Action.map_state (f := fun _ => Answer.none)]
      simp only [Channel.unlinkMirror]
      cases s.2.hasMirror s.1.mirror with
      | true => exact ⟨s.1.file, s.1.lastModified, _, rfl⟩
      | false => exact .refl s
    | _ => cases hspares

/-- What an operation that does not close the channel does to its mirror file is what it does to the
file of bytes. -/
theorem performMirrored_file (e : Channel.Setting σ τ) {op : Operation}
    (hop : op.isClosing = false) {os : OpenOptions} {c : Mirrored} {W : World σ}
    (hc : c.closed = false) (hl : c.file.IsFor os) :
    (Channel.performMirrored e op (c, W)).2.1.file.IsFor os ∧
      (Channel.performMirrored e op (c, W)).2.1.file.bytes =
        (ByteFile.perform e.limits.platform os op c.file.bytes).2 := by
  cases hfile : op.isOnFile with
  | true =>
    have hstands : Stands c W os (c, W) c.file.bytes := ⟨c.file, rfl, hl, rfl⟩
    obtain ⟨-, l, hs, hl', hbytes⟩ := simulates e hc op (c, W) _ hfile hstands
    rw [hs]
    exact ⟨hl', hbytes.symm⟩
  | false =>
    have hkept : (Channel.performMirrored e op (c, W)).2.1.file = c.file := by
      cases op with
      | removeMirror =>
        simp only [Channel.performMirrored, Channel.unlinkMirror, Action.bind_apply]
        cases W.hasMirror c.mirror <;> rfl
      | setLastModified | objectId | options | enter | seekable | partCount | uploadId | discard =>
        rfl
      | close | leave => cases hop
      | _ => cases hfile
    have hstep : (ByteFile.perform e.limits.platform os op c.file.bytes).2 = c.file.bytes := by
      cases op <;> first | rfl | cases hfile
    rw [hkept, hstep]
    exact ⟨hl, rfl⟩

end

/-! ## Closing -/

/-- What closing is to make of the object: its absence, or the content of the mirror. A channel that
is closed already, or was only opened for reading, makes nothing of it. -/
def settles (c : Mirrored) : Option (Option Bytes) :=
  if c.closed then none
  else if c.options.has .deleteOnClose then some none
  else if c.options.isReadOnly then none
  else some (some c.file.content)

section

variable {b : Backend σ τ} {limits : Limits} {names : ContentType.NameTypes} {c c' : Mirrored}
  {M M' : Mirrors} {es : List (Exchange τ)} {r : Except Failure Unit} {s s' : σ}

theorem SyncMove.sent (V : b.View) (m : SyncMove limits names c M es r c') (hr : b.Runs s es s') :
    (r = .ok () ∧ ∃ x, x.data = c.file.content ∧
        V.holds s' = (V.holds s).setObject c.object (some x)) ∨
      (∃ e, r = .error e) ∧ V.holds s' = V.holds s := by
  cases m with
  | lost =>
    cases hr
    exact .inr ⟨⟨_, rfl⟩, rfl⟩
  | stored _ _ reply =>
    cases hr with
    | call hc rest =>
      cases rest
      exact .inl ⟨rfl, _, V.data_keep _ _, V.call_ok (r := .put _ _ _ _) rfl hc⟩
  | notStored _ _ e =>
    cases hr with
    | call hc rest =>
      cases rest
      exact .inr ⟨⟨_, rfl⟩, V.call_error hc⟩
  | uploaded _ _ x =>
    cases hr with
    | call hc rest =>
      cases rest
      cases x with
      | ok u => exact .inl ⟨rfl, _, V.data_keep _ _, V.call_ok (r := .uploadFile ..) trivial hc⟩
      | error e => exact .inr ⟨⟨_, rfl⟩, V.call_error hc⟩

/-- Closing settles the object if it goes well; if it fails, nothing has changed. -/
theorem CloseMove.settled (V : b.View) (m : CloseMove limits names c M es r c' M')
    (hr : b.Runs s es s') :
    (∃ x, r = .ok () ∧ c.settles = some (x.map (·.data)) ∧
        V.holds s' = (V.holds s).setObject c.object x) ∨
      (r = .ok () → c.settles = none) ∧ V.holds s' = V.holds s := by
  cases m with
  | again hc =>
    cases hr
    exact .inr ⟨fun _ => by simp [settles, hc], rfl⟩
  | deleted hc hd x =>
    cases hr with
    | call hcall rest =>
      cases rest
      cases x with
      | ok u =>
        refine .inl ⟨none, rfl, by simp [settles, hc, hd], ?_⟩
        exact V.call_ok (r := .delete _) trivial hcall
      | error e => exact .inr ⟨(fun h => by cases h), V.call_error hcall⟩
  | unchanged hc hd hread =>
    cases hr
    exact .inr ⟨fun _ => by simp [settles, hc, hd, hread], rfl⟩
  | synced hc hd hread sync =>
    obtain ⟨rfl, x, hx, hholds⟩ | ⟨⟨e, rfl⟩, hholds⟩ := sync.sent V hr
    · exact .inl ⟨some x, rfl, by simp [settles, hc, hd, hread, hx], hholds⟩
    · exact .inr ⟨(fun h => by cases h), hholds⟩

/-- Closing leaves the channel closed, and changes no more of it than the reply that is kept. -/
theorem CloseMove.channel (m : CloseMove limits names c M es r c' M') :
    ∃ reply, c' = { c with closed := true, putResult := reply } := by
  cases m with
  | again hc => exact ⟨c.putResult, by rw [← hc]⟩
  | deleted | unchanged => exact ⟨_, rfl⟩
  | synced _ _ _ sync => cases sync <;> exact ⟨_, rfl⟩

end

/-- Closing a channel that is closed already does nothing. -/
theorem performMirrored_of_closed (e : Channel.Setting σ τ) {op : Operation}
    (hop : op.isClosing = true) {c : Mirrored} (hc : c.closed = true) (W : World σ) :
    Channel.performMirrored e op (c, W) = (.ok .none, (c, W)) := by
  have hclose : Mirrored.close e.backend e.limits e.names (c, W) = (.ok (), (c, W)) := by
    simp only [Mirrored.close, Action.bind_apply, this_apply, hc, ite_true]
    rfl
  cases op with
  | close | leave => simp only [Channel.performMirrored, Action.bind_apply, hclose, Action.pure_apply]
  | _ => cases hop

/-- Closing is a move, whichever operation closes the channel. -/
theorem performMirrored_close (e : Channel.Setting σ τ) {op : Operation}
    (hop : op.isClosing = true) (s : Mirrored × World σ) :
    ∃ es r, CloseMove e.limits e.names s.1 s.2.mirrors es r
        (Channel.performMirrored e op s).2.1 (Channel.performMirrored e op s).2.2.mirrors ∧
      (Channel.performMirrored e op s).1 = (do r; return .none) ∧
      e.backend.Runs s.2.store es (Channel.performMirrored e op s).2.2.store := by
  rcases ht : Channel.performMirrored e op s with ⟨r, c', W'⟩
  have hclose : ∃ r₀, Mirrored.close e.backend e.limits e.names s = (r₀, (c', W')) ∧
      r = do r₀; return .none := by
    cases op with
    | close | leave => exact Action.of_map (f := fun _ => Answer.none) ht
    | _ => cases hop
  obtain ⟨r₀, hclose, rfl⟩ := hclose
  obtain ⟨es, hm, hr⟩ := close_move hclose
  exact ⟨es, r₀, hm, rfl, hr⟩

end Mirrored

end ObjectChannel
