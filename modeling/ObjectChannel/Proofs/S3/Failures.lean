/-
What becomes of a request that the service fails. An operation of the client makes at most one request,
and an ordinary failure of it is told apart by its code: a range behind the end of the object is an empty
stream, an object that is not there is no failure of a probe, and a transfer that was called off is said
to be so. Every other failure is the cause of a failure of the storage.

The code stands in a reply that may have any shape. Where its error entry is no object the two operations
that look for a code cannot read it, and fail for that reason instead (`probe_with_flat_error`). A code is
turned into text before it is compared, and the number of a part before it is named: one that cannot be
written fails for that.
-/
import ObjectChannel.Proofs.S3.Notes

namespace ObjectChannel.S3.Client

open ObjectChannel.Action (Keeps)

variable {σ τ α β : Type}

/-! ## The operations -/

/-- What the client can be asked to do, with any arguments. -/
inductive Operation where
  | putObject (o : ObjectId) (body : Bytes) (length : Numeral) (info : ObjectInfo)
  | getObject (o : ObjectId) (range : Option (Int × Int))
  | headObject (o : ObjectId)
  | deleteObject (o : ObjectId)
  | beginUpload (o : ObjectId) (info : ObjectInfo)
  | uploadPart (o : ObjectId) (uploadId : String) (number : Numeral) (body : Bytes) (length : Numeral)
  | completeUpload (o : ObjectId) (uploadId : String) (parts : List ListedPart)
  | abortUpload (o : ObjectId) (uploadId : String)
  | uploadFile (o : ObjectId) (content : Bytes) (workers : Numeral) (info : ObjectInfo)

/-- What an operation gives back. -/
inductive Result (τ : Type) where
  | stored (r : PutResult)
  | stream (t : Body τ)
  | head (h : ObjectHead)
  | upload (u : MultipartUpload)
  | part (p : CompletedPart)
  | done

def Operation.perform (nesting : Nat) (send : Dispatch σ τ) (settings : Settings) :
    Operation → Action σ (Result τ)
  | .putObject o body length info => .stored <$> Client.putObject send settings o body length info
  | .getObject o range => .stream <$> Client.getObject nesting send o range
  | .headObject o => .head <$> Client.headObject nesting send o
  | .deleteObject o => (fun _ => .done) <$> Client.deleteObject send o
  | .beginUpload o info => .upload <$> Client.beginUpload nesting send settings o info
  | .uploadPart o id number body length =>
    .part <$> Client.uploadPart nesting send o id number body length
  | .completeUpload o id parts => (fun _ => .done) <$> Client.completeUpload send o id parts
  | .abortUpload o id => (fun _ => .done) <$> Client.abortUpload send o id
  | .uploadFile o content workers info =>
    (fun _ => .done) <$> Client.uploadFile send settings o content workers info

/-- It asks for a range of an object. -/
def Operation.asksRange : Operation → Bool
  | .getObject _ (some _) => true
  | _ => false

/-- It asks whether an object is there. -/
def Operation.probes : Operation → Bool
  | .headObject _ => true
  | _ => false

/-- It has a file sent by the transfer manager. -/
def Operation.sendsFile : Operation → Bool
  | .uploadFile .. => true
  | _ => false

/-! ## Codes of failures -/

/-- What the service sent with a refusal under the name of an error. -/
def errorEntry : Failure → Option Value
  | .store _ reply => reply.bind (·.field? "Error")
  | _ => none

/-- There is an error entry, and it is no object. -/
def HasFlatError (e : Failure) : Prop :=
  ∃ v, errorEntry e = some v ∧ ∀ fields, v ≠ .object fields

/-- The code of a failure as text, where it has one that can be written. -/
def codeText (nesting : Nat) (e : Failure) : Except Unwritable (Option String) :=
  match (errorEntry e).bind (·.field? "Code") with
  | none | some .null => .ok none
  | some code => some <$> code.display nesting

variable {nesting : Nat}

theorem errorCode_eq (e : Failure) :
    errorCode nesting e =
      match errorEntry e with
      | none | some (.object _) => (codeText nesting e).mapError .unwritable
      | some _ => .error .replyShape := by
  have hshown (v : Value) :
      some <$> v.shown nesting = (some <$> v.display nesting).mapError .unwritable := by
    rw [Value.shown]
    cases v.display nesting <;> rfl
  cases e with
  | store message reply =>
    cases reply with
    | none => rfl
    | some v =>
      cases v with
      | object fields =>
        simp only [errorCode, codeText, errorEntry, Option.bind_some, Value.field?]
        cases fields.lookup "Error" with
        | none => rfl
        | some v =>
          cases v with
          | object error =>
            simp only [Option.bind_some]
            cases error.lookup "Code" with
            | none => rfl
            | some code =>
              cases code with
              | null => rfl
              | _ => exact hshown _
          | _ => rfl
      | _ => rfl
  | _ => rfl

theorem errorCode_of_readable {e : Failure} (h : ¬HasFlatError e) :
    errorCode nesting e = (codeText nesting e).mapError .unwritable := by
  rw [errorCode_eq]
  split
  · rfl
  · rfl
  · next v hflat hentry => exact absurd ⟨v, hentry, hflat⟩ h

theorem errorCode_of_flat {e : Failure} (h : HasFlatError e) :
    errorCode nesting e = .error .replyShape := by
  obtain ⟨v, hentry, hflat⟩ := h
  rw [errorCode_eq, hentry]
  cases v with
  | object fields => exact absurd rfl (hflat fields)
  | _ => rfl

/-- What cannot be read has no code. -/
theorem codeText_of_flat {e : Failure} (h : HasFlatError e) : codeText nesting e = .ok none := by
  obtain ⟨v, hentry, hflat⟩ := h
  rw [codeText, hentry]
  cases v with
  | object fields => exact absurd rfl (hflat fields)
  | _ => rfl

/-! ## Requests that fail -/

/-- A service, with the requests that were made to it and what came of them. -/
structure Noted (σ τ : Type) where
  service : σ
  log : List (Request × Except Failure (Reply τ)) := []

/-- The requests, noted. -/
def noting (send : Dispatch σ τ) : Dispatch (Noted σ τ) τ := fun q s =>
  ((send q s.service).1, ⟨(send q s.service).2, s.log ++ [(q, (send q s.service).1)]⟩)

/-- The action makes at most one request, and `told` is what comes of it where that fails in the ordinary
way. -/
def Tells (told : Failure → Except Failure α) (x : Action (Noted σ τ) α) : Prop :=
  ∀ s, ∃ asked, (x s).2.log = s.log ++ asked ∧ asked.length ≤ 1 ∧
    ∀ q e, (q, .error e) ∈ asked → e.isInterrupt = false → (x s).1 = told e

namespace Tells

variable {told : Failure → Except Failure α} {x : Action (Noted σ τ) α} {send : Dispatch σ τ}

/-- Where nothing is asked for there is nothing to tell. -/
theorem of_keeps (hx : x.Keeps id) : Tells told x := by
  intro s
  have hs : (x s).2 = s := hx s
  exact ⟨[], by rw [hs, List.append_nil], Nat.zero_le _, fun _ _ h => by cases h⟩

theorem request (q : Request) : Tells .error (noting send q) := by
  intro s
  refine ⟨[(q, (send q s.service).1)], rfl, Nat.le_refl _, fun q' e he _ => ?_⟩
  exact (congrArg Prod.snd (List.mem_singleton.mp he)).symm

/-- The request may come after something that makes none. -/
theorem after {told : Failure → Except Failure β} {k : α → Action (Noted σ τ) β} (hx : x.Keeps id)
    (hk : ∀ a, Tells told (k a)) : Tells told (x >>= k) := by
  intro s
  have hs : (x s).2 = s := hx s
  rw [Action.bind_apply]
  rcases hxs : x s with ⟨e | a, s'⟩ <;> rw [hxs] at hs <;> obtain rfl : s' = s := hs
  · exact ⟨[], (List.append_nil _).symm, Nat.zero_le _, fun _ _ h => by cases h⟩
  · exact hk a s'

/-- What comes after the request makes no other. It is not done where the request has told a failure. -/
theorem bind {told' : Failure → Except Failure β} {k : α → Action (Noted σ τ) β} (hx : Tells told x)
    (hk : ∀ a, (k a).Keeps id) (hok : ∀ e a s, told e = .ok a → (k a s).1 = told' e)
    (herror : ∀ e e', told e = .error e' → told' e = .error e') : Tells told' (x >>= k) := by
  intro s
  obtain ⟨asked, hlog, hone, htold⟩ := hx s
  rw [Action.bind_apply]
  rcases hxs : x s with ⟨e' | a, s'⟩ <;> rw [hxs] at hlog htold
  · exact ⟨asked, hlog, hone, fun q e hq he => (herror e e' (htold q e hq he).symm).symm⟩
  · have hs : (k a s').2 = s' := hk a s'
    refine ⟨asked, by rw [hs]; exact hlog, hone, fun q e hq he => ?_⟩
    exact hok e a s' (htold q e hq he).symm

/-- Something is done about the failure of a request. -/
theorem recover {handle : Failure → Action (Noted σ τ) α} (hx : Tells .error x)
    (hh : ∀ e, (handle e).Keeps id) (htold : ∀ e s, (handle e s).1 = told e) :
    Tells told (x.recover handle) := by
  intro s
  obtain ⟨asked, hlog, hone, hfails⟩ := hx s
  rw [Action.recover_apply]
  rcases hxs : x s with ⟨e' | a, s'⟩ <;> rw [hxs] at hlog hfails
  · have hs : (handle e' s').2 = s' := hh e' s'
    cases he' : e'.isInterrupt with
    | true =>
      simp only [he', ite_true]
      refine ⟨asked, hlog, hone, fun q e hq he => ?_⟩
      obtain rfl : e' = e := Except.error.inj (hfails q e hq he)
      rw [he'] at he
      cases he
    | false =>
      simp only [he', Bool.false_eq_true, ite_false]
      refine ⟨asked, by rw [hs]; exact hlog, hone, fun q e hq he => ?_⟩
      obtain rfl : e' = e := Except.error.inj (hfails q e hq he)
      exact htold e' s'
  · exact ⟨asked, hlog, hone, fun q e hq he => by cases hfails q e hq he⟩

theorem mapFailure (hx : Tells .error x) (f : Failure → Failure) :
    Tells (fun e => .error (f e)) (x.mapFailure f) :=
  hx.recover (fun _ => .fail _) fun _ _ => rfl

/-- What comes after a request that fails is not done. -/
theorem failing {f : Failure → Failure} {k : α → Action (Noted σ τ) β}
    (hx : Tells (fun e => .error (f e)) x) (hk : ∀ a, (k a).Keeps id) :
    Tells (fun e => .error (f e)) (x >>= k) :=
  hx.bind hk (fun _ _ _ h => by cases h) fun _ _ h => by cases h; rfl

theorem map (hx : Tells told x) (g : α → β) : Tells (fun e => (told e).map g) (g <$> x) := by
  intro s
  obtain ⟨asked, hlog, hone, htold⟩ := hx s
  rw [Action.map_apply]
  exact ⟨asked, hlog, hone, fun q e hq he => congrArg (·.map g) (htold q e hq he)⟩

end Tells

/-! ## What each operation tells -/

/-- Failures with certain codes are told as `a`, and others fail. -/
def byCode (nesting : Nat) (known : Option String → Prop) [DecidablePred known] (a : α)
    (f : Failure → Failure) (e : Failure) : Except Failure α :=
  (errorCode nesting e).bind fun code => if known code then .ok a else .error (f e)

/-- What the failure to send a part is told as: the number of the part is written. -/
def partFailed (nesting : Nat) (number : Numeral) (e : Failure) : Failure :=
  match number.given.shown nesting with
  | .ok shown => .requestFailed ("upload part " ++ shown) e
  | .error e' => e'

/-- What an operation tells of a request that has failed. -/
def Operation.told (nesting : Nat) : Operation → Failure → Except Failure (Result τ)
  | .putObject .., e => .error (.requestFailed "put object" e)
  | .getObject _ none, e => .error (.requestFailed "get object" e)
  | .getObject _ (some _), e =>
    byCode nesting (· = some "InvalidRange") (.stream .empty) (.requestFailed "get object") e
  | .headObject _, e =>
    byCode nesting (·.any missingCodes.contains) (.head { found := false })
      (.requestFailed "get object metadata") e
  | .deleteObject _, e => .error (.requestFailed "delete object" e)
  | .beginUpload .., e => .error (.requestFailed "create multipart upload" e)
  | .uploadPart _ _ number _ _, e => .error (partFailed nesting number e)
  | .completeUpload .., e => .error (.requestFailed "complete multipart upload" e)
  | .abortUpload .., e => .error (.requestFailed "abort multipart upload" e)
  | .uploadFile .., e =>
    .error (match e with | .cancelled => .cancelled | e => .requestFailed "upload file" e)

section

variable (send : Dispatch σ τ) (settings : Settings) {o : ObjectId}

theorem sending_tells (activity : String) (q : Request) :
    Tells (fun e => .error (.requestFailed activity e)) (sending (noting send) activity q) :=
  (Tells.request q).mapFailure _

/-- A request whose failures are told apart by their codes. -/
theorem recover_tells (q : Request) (known : Option String → Prop) [DecidablePred known]
    (f : Failure → Failure) :
    Tells (byCode nesting known none f) ((some <$> noting send q).recover fun e => do
      if known (← Action.ofExcept (errorCode nesting e)) then return none else Action.fail (f e)) := by
  refine Tells.recover ((Tells.request q).map some) (fun e => ?_) fun e s => ?_
  · refine (Keeps.ofExcept _).bind fun code => ?_
    split
    · exact .pure _
    · exact .fail _
  · simp only [Action.bind_apply, Action.ofExcept_apply, byCode]
    cases errorCode nesting e with
    | error _ => rfl
    | ok code =>
      show ((if known code then Pure.pure none else Action.fail (f e) : Action _ _) s).1 =
        if known code then .ok none else .error (f e)
      split <;> rfl

/-- Where the request has failed in one of the known ways, what follows tells `a`. -/
theorem bind_byCode {known : Option String → Prop} [DecidablePred known] {f : Failure → Failure}
    {x : Action (Noted σ τ) (Option α)} {k : Option α → Action (Noted σ τ) β} {a : β}
    (hx : Tells (byCode nesting known none f) x) (hk : ∀ r, (k r).Keeps id)
    (hnone : ∀ s, (k none s).1 = .ok a) : Tells (byCode nesting known a f) (x >>= k) := by
  refine hx.bind hk (fun e r s h => ?_) fun e e' h => ?_ <;> unfold byCode at h ⊢
  · cases hcode : errorCode nesting e with
    | error _ => rw [hcode] at h; cases h
    | ok code =>
      rw [hcode] at h
      simp only [Except.bind] at h ⊢
      split at h
      · cases h
        rw [hnone s, if_pos (by assumption)]
      · cases h
  · cases hcode : errorCode nesting e with
    | error _ => rw [hcode] at h; cases h; rfl
    | ok code =>
      rw [hcode] at h
      simp only [Except.bind] at h ⊢
      split at h
      · cases h
      · cases h
        rw [if_neg (by assumption)]

theorem map_byCode (known : Option String → Prop) [DecidablePred known] (a : α) (g : α → β)
    (f : Failure → Failure) (e : Failure) :
    (byCode nesting known a f e).map g = byCode nesting known (g a) f e := by
  unfold byCode
  cases errorCode nesting e with
  | error _ => rfl
  | ok code =>
    simp only [Except.bind]
    split <;> rfl

theorem getObject_tells (range : Option (Int × Int)) :
    Tells (Operation.told nesting (.getObject o range))
      (Operation.perform nesting (noting send) settings (.getObject o range)) := by
  cases range with
  | none =>
    exact ((sending_tells send "get object" (.getObject o none)).failing fun _ => .ofExcept _).map _
  | some range =>
    obtain ⟨start, stop⟩ := range
    have htells : Tells (byCode nesting (· = some "InvalidRange") .empty (.requestFailed "get object"))
        (getObject nesting (noting send) o (some (start, stop))) := by
      simp only [getObject]
      split
      · exact .of_keeps (.pure _)
      · refine .after (.ofExcept _) fun text =>
          bind_byCode (recover_tells send _ (· = some "InvalidRange") _) (fun r => ?_) fun _ => rfl
        split
        · exact .pure _
        · exact .ofExcept _
    have hstream := htells.map Result.stream
    simp only [map_byCode] at hstream
    exact hstream

theorem headObject_tells :
    Tells (Operation.told nesting (.headObject o))
      (Operation.perform nesting (noting send) settings (.headObject o)) := by
  have htells : Tells (byCode nesting (·.any missingCodes.contains) { found := false }
      (.requestFailed "get object metadata")) (headObject nesting (noting send) o) := by
    refine bind_byCode (recover_tells send _ (fun code => code.any missingCodes.contains) _)
      (fun r => ?_) fun s => ?_
    · split
      · exact .pure _
      · exact (Keeps.ofExcept _).bind fun _ => (Keeps.ofExcept _).bind fun _ =>
          (Keeps.ofExcept _).bind fun _ => (Keeps.ofExcept _).bind fun _ => .pure _
    · rfl
  have hhead := htells.map (fun h => (.head h : Result τ))
  simp only [map_byCode] at hhead
  exact hhead

/-- What an operation tells of the request that it makes. -/
theorem perform_tells (op : Operation) :
    Tells (op.told nesting) (op.perform nesting (noting send) settings) := by
  cases op with
  | putObject o body length info =>
    refine Tells.map (.failing (.mapFailure (.after (.ofExcept _) fun n => .request _) _) fun _ => ?_) _
    exact (Keeps.ofExcept _).bind fun _ => (Keeps.ofExcept _).bind fun _ => .pure _
  | getObject o range => exact getObject_tells send settings range
  | headObject o => exact headObject_tells send settings
  | deleteObject o => exact ((sending_tells send _ _).failing fun _ => .pure _).map _
  | beginUpload o info =>
    refine ((sending_tells send _ _).failing fun _ => (Keeps.ofExcept _).bind fun _ => ?_).map _
    split
    · exact (Keeps.ofExcept _).bind fun _ => .pure _
    · exact .fail _
  | uploadPart o id number body length =>
    refine Tells.map (.failing (.recover (.after (.ofExcept _) fun n => .after (.ofExcept _) fun size =>
      (Tells.request _).failing fun _ => .pure _) (fun _ => (Keeps.ofExcept _).bind fun _ => .fail _)
      fun e s => ?_) fun r => (Keeps.ofExcept _).bind fun _ => ?_) _
    · simp only [Action.bind_apply, Action.ofExcept_apply, partFailed]
      cases number.given.shown nesting <;> rfl
    · split
      · exact (Keeps.ofExcept _).bind fun _ => .pure _
      · exact .fail _
  | completeUpload o id parts =>
    exact Tells.map (.after (.ofExcept _) fun _ => .after (.ofExcept _) fun _ =>
      (sending_tells send _ _).failing fun _ => .pure _) _
  | abortUpload o id => exact ((sending_tells send _ _).failing fun _ => .pure _).map _
  | uploadFile o content workers info =>
    exact Tells.map (.after (.ofExcept _) fun _ =>
      .failing (.mapFailure (.request _) _) fun _ => .pure _) _

end

/-- What an operation writes about a request that has failed, to compare or to name it: the code of the
failure, or the number of a part. -/
def Operation.wording (nesting : Nat) (e : Failure) : Operation → Except Unwritable (Option String)
  | .getObject _ (some _) | .headObject _ => codeText nesting e
  | .uploadPart _ _ number _ _ => some <$> number.given.display nesting
  | _ => .ok none

/-- A failure that is told apart, or else the cause of a failure of the storage. The two operations that look
for the code of a failure are not able to where the error entry is no object, and what an operation writes
about the failure may be unfit to be written. -/
structure ToldApart (nesting : Nat) (op : Operation) (e : Failure) (x : Except Failure (Result τ)) :
    Prop where
  /-- The range lies behind the end of the object. -/
  empty : x = .ok (.stream .empty) ↔
    op.asksRange = true ∧ codeText nesting e = .ok (some "InvalidRange")
  missing : x = .ok (.head { found := false }) ↔
    op.probes = true ∧ ∃ code ∈ ["404", "NoSuchKey", "NotFound"], codeText nesting e = .ok (some code)
  calledOff : x = .error .cancelled ↔ op.sendsFile = true ∧ e = .cancelled
  unreadable : x = .error .replyShape ↔ (op.asksRange = true ∨ op.probes = true) ∧ HasFlatError e
  unwritten : ∀ why, x = .error (.unwritable why) ↔ op.wording nesting e = .error why
  other : x ≠ .ok (.stream .empty) → x ≠ .ok (.head { found := false }) → x ≠ .error .cancelled →
    x ≠ .error .replyShape → (∀ why, x ≠ .error (.unwritable why)) →
    ∃ message, x = .error (.storage message (some e))

theorem byCode_of_readable {known : Option String → Prop} [DecidablePred known] {a : α}
    {f : Failure → Failure} {e : Failure} (h : ¬HasFlatError e) :
    byCode nesting known a f e =
      ((codeText nesting e).mapError .unwritable).bind fun code =>
        if known code then .ok a else .error (f e) := by
  rw [byCode, errorCode_of_readable h]

theorem byCode_of_flat {known : Option String → Prop} [DecidablePred known] {a : α}
    {f : Failure → Failure} {e : Failure} (h : HasFlatError e) :
    byCode nesting known a f e = .error .replyShape := by
  rw [byCode, errorCode_of_flat h]
  rfl

theorem any_missingCodes (code : Option String) :
    code.any missingCodes.contains = true ↔ ∃ c ∈ ["404", "NoSuchKey", "NotFound"], code = some c := by
  cases code <;> simp [missingCodes]

/-- An operation that looks for a code writes just that. -/
theorem Operation.wording_of_looks {op : Operation} {e : Failure}
    (h : op.asksRange = true ∨ op.probes = true) : op.wording nesting e = codeText nesting e := by
  cases op with
  | headObject o => rfl
  | getObject o range =>
    cases range with
    | some range => rfl
    | none => rcases h with h | h <;> cases h
  | _ => rcases h with h | h <;> cases h

theorem unwritable_inj {why why' : Unwritable} (h : Failure.unwritable why = .unwritable why') :
    why = why' := by
  cases why <;> cases why' <;> first | rfl | cases h

namespace ToldApart

variable {op : Operation} {e : Failure}

/-- Any failure that is not told apart is the cause of one of the storage. -/
theorem reported (activity : String)
    (hrange : op.asksRange = true → ¬HasFlatError e ∧ codeText nesting e ≠ .ok (some "InvalidRange"))
    (hprobes : op.probes = true → ¬HasFlatError e ∧
      ¬∃ code ∈ ["404", "NoSuchKey", "NotFound"], codeText nesting e = .ok (some code))
    (hsends : op.sendsFile = true → e ≠ .cancelled)
    (hwording : ∀ why, op.wording nesting e ≠ .error why) :
    ToldApart (τ := τ) nesting op e (.error (.requestFailed activity e)) where
  empty := ⟨nofun, fun h => absurd h.2 (hrange h.1).2⟩
  missing := ⟨nofun, fun h => absurd h.2 (hprobes h.1).2⟩
  calledOff := ⟨nofun, fun h => absurd h.2 (hsends h.1)⟩
  unreadable := by
    refine ⟨nofun, fun ⟨hop, hflat⟩ => ?_⟩
    rcases hop with hop | hop
    · exact absurd hflat (hrange hop).1
    · exact absurd hflat (hprobes hop).1
  unwritten why := ⟨fun h => (by cases why <;> cases h), fun h => absurd h (hwording why)⟩
  other _ _ _ _ _ := ⟨_, rfl⟩

/-- The code cannot be read. -/
theorem flat (hop : op.asksRange = true ∨ op.probes = true) (hsends : op.sendsFile = false)
    (hflat : HasFlatError e) : ToldApart (τ := τ) nesting op e (.error .replyShape) where
  empty := by simp [codeText_of_flat hflat]
  missing := by simp [codeText_of_flat hflat]
  calledOff := by simp [hsends]
  unreadable := ⟨fun _ => ⟨hop, hflat⟩, fun _ => rfl⟩
  unwritten why := by
    rw [Operation.wording_of_looks hop, codeText_of_flat hflat]
    exact ⟨fun h => (by cases why <;> cases h), nofun⟩
  other _ _ _ h := absurd rfl h

/-- What is written about the failure is unfit to be. -/
theorem unfit {why : Unwritable} (hwording : op.wording nesting e = .error why)
    (hsends : op.sendsFile = false) : ToldApart (τ := τ) nesting op e (.error (.unwritable why)) := by
  have hcode (hop : op.asksRange = true ∨ op.probes = true) : codeText nesting e = .error why :=
    (Operation.wording_of_looks hop).symm.trans hwording
  refine ⟨⟨nofun, fun h => ?_⟩, ⟨nofun, fun h => ?_⟩, ⟨fun h => ?_, fun h => ?_⟩, ⟨fun h => ?_, fun h => ?_⟩,
    fun why' => ⟨fun h => ?_, fun h => ?_⟩, fun _ _ _ _ h => absurd rfl (h why)⟩
  · cases (hcode (.inl h.1)).symm.trans h.2
  · obtain ⟨hop, code, -, h⟩ := h
    cases (hcode (.inr hop)).symm.trans h
  · cases why <;> cases h
  · cases hsends.symm.trans h.1
  · cases why <;> cases h
  · cases (hcode h.1).symm.trans (codeText_of_flat h.2)
  · rw [hwording, unwritable_inj (Except.error.inj h)]
  · obtain rfl : why = why' := Except.error.inj (hwording.symm.trans h)
    rfl

/-- The code is looked for: it may be unreadable, or unfit to be written, or else it is a known one or not. -/
theorem of_byCode {known : Option String → Prop} [DecidablePred known] {a : Result τ} {activity : String}
    (hop : op.asksRange = true ∨ op.probes = true) (hsends : op.sendsFile = false)
    (hknown : ∀ code, ¬HasFlatError e → codeText nesting e = .ok code → known code →
      ToldApart nesting op e (.ok a))
    (hother : ∀ code, ¬HasFlatError e → codeText nesting e = .ok code → ¬known code →
      ToldApart (τ := τ) nesting op e (.error (.requestFailed activity e))) :
    ToldApart nesting op e (byCode nesting known a (.requestFailed activity) e) := by
  by_cases hflat : HasFlatError e
  · rw [byCode_of_flat hflat]
    exact .flat hop hsends hflat
  rw [byCode_of_readable hflat]
  cases hcode : codeText nesting e with
  | error why => exact .unfit ((Operation.wording_of_looks hop).trans hcode) hsends
  | ok code =>
    show ToldApart nesting op e (if known code then .ok a else .error (.requestFailed activity e))
    split
    next h => exact hknown code hflat hcode h
    next h => exact hother code hflat hcode h

theorem told_range (o : ObjectId) (range : Int × Int) :
    ToldApart (τ := τ) nesting (.getObject o (some range)) e
      (Operation.told nesting (.getObject o (some range)) e) := by
  refine .of_byCode (.inl rfl) rfl (fun code hflat hcode hknown => ?_) fun code hflat hcode hknown => ?_
  · have hwording (why) : codeText nesting e ≠ .error why := by simp [hcode]
    exact ⟨⟨fun _ => ⟨rfl, hcode.trans (congrArg _ hknown)⟩, fun _ => rfl⟩, ⟨nofun, nofun⟩, ⟨nofun, nofun⟩,
      ⟨nofun, fun h => absurd h.2 hflat⟩, fun why => ⟨nofun, fun h => absurd h (hwording why)⟩,
      fun h => absurd rfl h⟩
  · have hwording (why) : codeText nesting e ≠ .error why := by simp [hcode]
    exact .reported _ (fun _ => ⟨hflat, by simp [hcode, hknown]⟩) nofun nofun hwording

theorem told_head (o : ObjectId) :
    ToldApart (τ := τ) nesting (.headObject o) e (Operation.told nesting (.headObject o) e) := by
  refine .of_byCode (.inr rfl) rfl (fun code hflat hcode hknown => ?_) fun code hflat hcode hknown => ?_
  · have hwording (why) : codeText nesting e ≠ .error why := by simp [hcode]
    obtain ⟨c, hc, rfl⟩ := (any_missingCodes code).mp hknown
    exact ⟨⟨nofun, nofun⟩, ⟨fun _ => ⟨rfl, c, hc, hcode⟩, fun _ => rfl⟩, ⟨nofun, nofun⟩,
      ⟨nofun, fun h => absurd h.2 hflat⟩, fun why => ⟨nofun, fun h => absurd h (hwording why)⟩,
      fun _ h => absurd rfl h⟩
  · have hwording (why) : codeText nesting e ≠ .error why := by simp [hcode]
    refine .reported _ nofun (fun _ => ⟨hflat, fun ⟨c, hc, h⟩ => hknown ?_⟩) nofun hwording
    exact (any_missingCodes code).mpr ⟨c, hc, Except.ok.inj (hcode.symm.trans h)⟩

theorem told_part (o : ObjectId) (id : String) (number : Numeral) (body : Bytes) (length : Numeral) :
    ToldApart (τ := τ) nesting (.uploadPart o id number body length) e
      (Operation.told nesting (.uploadPart o id number body length) e) := by
  show ToldApart _ _ _ (.error (partFailed nesting number e))
  rw [partFailed, Value.shown]
  cases hwording : number.given.display nesting with
  | error why => exact .unfit (by rw [Operation.wording, hwording]; rfl) rfl
  | ok shown =>
    refine .reported _ nofun nofun nofun fun why h => ?_
    rw [Operation.wording, hwording] at h
    cases h

end ToldApart

theorem told_toldApart (op : Operation) (e : Failure) :
    ToldApart (τ := τ) nesting op e (op.told nesting e) := by
  cases op with
  | getObject o range =>
    cases range with
    | none => exact .reported _ nofun nofun nofun nofun
    | some range => exact .told_range o range
  | headObject o => exact .told_head o
  | uploadPart o id number body length => exact .told_part o id number body length
  | uploadFile o content workers info =>
    cases e with
    | cancelled =>
      exact ⟨⟨nofun, nofun⟩, ⟨nofun, nofun⟩, ⟨fun _ => ⟨rfl, rfl⟩, fun _ => rfl⟩,
        ⟨nofun, fun h => (by rcases h.1 with h | h <;> cases h)⟩,
        fun why => ⟨fun h => (by cases why <;> cases h), nofun⟩, fun _ _ h => absurd rfl h⟩
    | _ => exact .reported _ nofun nofun nofun nofun
  | _ => exact .reported _ nofun nofun nofun nofun

/-- **A failure of the service is told apart by its code, or is the cause of a failure of the storage**,
whatever the client is asked for and with whatever arguments: it makes at most one request to the service,
and tells of an ordinary failure as `ToldApart` says. -/
theorem failures_mapped (nesting : Nat) (send : Dispatch σ τ) (settings : Settings) (op : Operation)
    (s : Noted σ τ) :
    ∃ asked, (op.perform nesting (noting send) settings s).2.log = s.log ++ asked ∧ asked.length ≤ 1 ∧
      ∀ q e, (q, .error e) ∈ asked → e.isInterrupt = false →
        ToldApart nesting op e (op.perform nesting (noting send) settings s).1 := by
  have htells : Tells (op.told nesting) (op.perform nesting (noting send) settings) :=
    perform_tells send settings op
  obtain ⟨asked, hlog, hone, htold⟩ := htells s
  refine ⟨asked, hlog, hone, fun q e hq he => ?_⟩
  rw [htold q e hq he]
  exact told_toldApart op e

/-- A service that refuses whatever is asked for, in one way. -/
def refusing (e : Failure) : Dispatch Unit Unit := fun _ s => (.error e, s)

/-- A probe is refused with a code that is a number. -/
theorem failures_mapped_of_numeric_code :
    let e : Failure := .store "refused" (some (.object [("Error", .object [("Code", .int 404)])]))
    ((Operation.headObject ⟨"bucket", "key"⟩).perform 985 (noting (refusing e)) {} ⟨(), []⟩).1 =
      .ok (.head { found := false }) := by
  intro e
  obtain ⟨asked, hlog, -, htold⟩ :=
    failures_mapped 985 (refusing e) {} (.headObject ⟨"bucket", "key"⟩) ⟨(), []⟩
  have hasked : [(.headObject ⟨"bucket", "key"⟩, .error e)] = asked := hlog
  have hmem : (.headObject ⟨"bucket", "key"⟩, .error e) ∈ asked := hasked ▸ .head _
  have hcode : codeText 985 e = .ok (some "404") := rfl
  exact (htold _ e hmem rfl).missing.mpr ⟨rfl, "404", .head _, hcode⟩

/-- Where the error entry of a refusal is a text, a probe does not fail as a failure of the storage that the
refusal has caused, though the refusal has no code. -/
theorem probe_with_flat_error :
    let e : Failure := .store "mock failure in head_object" (some (.object [("Error", .text "boom")]))
    let ended := (Operation.headObject ⟨"b", "k"⟩).perform 985 (noting (refusing e)) {} ⟨(), []⟩
    ended.2.log = [(.headObject ⟨"b", "k"⟩, .error e)] ∧ e.isInterrupt = false ∧ codeText 985 e = .ok none ∧
      ended.1 = .error .replyShape ∧ ¬∃ message, ended.1 = .error (.storage message (some e)) :=
  ⟨rfl, rfl, rfl, rfl, nofun⟩

end ObjectChannel.S3.Client
