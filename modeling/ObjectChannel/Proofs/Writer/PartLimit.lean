/-
How many bytes a writer takes. An upload has at most `M` parts, and a part that a write sends has at
least `m` bytes, and fewer than `m + n` where no write has more than `n`. So `m * M` bytes are taken in
any case, however they are split, and more than `M * (m + n - 1)` never are.

`part_limit` says so of all runs, and that at no time more than `M` parts were uploaded.
-/
import ObjectChannel.Proofs.Writer.AllOrNothing
import ObjectChannel.Proofs.Writer.Publication

namespace ObjectChannel

variable {σ τ : Type}

/-! ## Sizes -/

theorem size_concat_append (xs ys : List Bytes) :
    (Bytes.concat (xs ++ ys)).size = (Bytes.concat xs).size + (Bytes.concat ys).size := by
  induction xs with
  | nil => simp [Bytes.concat]
  | cons b xs ih =>
    simp only [List.cons_append, Bytes.concat_cons, ByteArray.size_append, ih]
    omega

theorem size_sentBytes_cons (p : SentPart) (sent : List SentPart) :
    (sentBytes (p :: sent)).size = p.block.size + (sentBytes sent).size := by
  rw [sentBytes, List.map_cons, Bytes.concat_cons, ByteArray.size_append]
  rfl

/-- Parts of at least `m` bytes have `m` times as many bytes as there are parts. -/
theorem le_size_sentBytes {sent : List SentPart} {m : Int} (h : ∀ p ∈ sent, m ≤ p.block.size) :
    sent.length * m ≤ (sentBytes sent).size := by
  induction sent with
  | nil => simp
  | cons p sent ih =>
    have hp := h p (.head _)
    have hrest := ih fun q hq => h q (.tail _ hq)
    rw [size_sentBytes_cons, List.length_cons, Int.natCast_add, Int.natCast_add, Int.add_mul]
    omega

theorem size_sentBytes_le {sent : List SentPart} {n : Int} (h : ∀ p ∈ sent, p.block.size ≤ n) :
    (sentBytes sent).size ≤ sent.length * n := by
  induction sent with
  | nil => simp
  | cons p sent ih =>
    have hp := h p (.head _)
    have hrest := ih fun q hq => h q (.tail _ hq)
    rw [size_sentBytes_cons, List.length_cons, Int.natCast_add, Int.natCast_add, Int.add_mul]
    omega

namespace Exchange

/-- The block that was sent as a part. -/
def block? : Exchange τ → Option Bytes
  | .call (.uploadPart _ _ _ block ..) _ => some block
  | _ => none

end Exchange

namespace Writer

variable {limits : Limits} {w w' : Writer} {log es : List (Exchange τ)}

/-! ## How large parts are -/

theorem AbortMove.block?_eq {r : Except Failure Unit} (m : AbortMove w es r w') {x : Exchange τ}
    (hx : x ∈ es) : x.block? = .none := by
  cases m with
  | none => cases hx
  | attempt => rw [List.mem_singleton.mp hx]; rfl

theorem PartMove.block_eq {id : String} {block b : Bytes} {isLast : Bool} {r : Except Failure Unit}
    (m : PartMove w id block isLast es r w') {x : Exchange τ} (hx : x ∈ es)
    (hb : x.block? = some b) : b = block := by
  cases m with
  | taken | interrupted => rw [List.mem_singleton.mp hx] at hb; exact (Option.some.inj hb).symm
  | refused he abort =>
    rcases List.mem_cons.mp hx with rfl | hx
    · exact (Option.some.inj hb).symm
    · simp [abort.block?_eq hx] at hb

/-- Only the block is sent, whatever comes of it. -/
theorem UploadMove.block_eq {block b : Bytes} {isLast : Bool} {r : Except Failure Unit}
    (m : UploadMove w block isLast es r w') {x : Exchange τ} (hx : x ∈ es)
    (hb : x.block? = some b) : b = block := by
  cases m with
  | further hid part => exact part.block_eq hx hb
  | first hid u part =>
    rcases List.mem_cons.mp hx with rfl | hx
    · cases hb
    · exact part.block_eq hx hb
  | refused | interrupted => rw [List.mem_singleton.mp hx] at hb; cases hb

theorem CompleteMove.block?_eq {id : String} {r : Except Failure Unit}
    (m : CompleteMove w id es r w') {x : Exchange τ} (hx : x ∈ es) : x.block? = .none := by
  cases m with
  | completed | interrupted => rw [List.mem_singleton.mp hx]; rfl
  | refused he abort =>
    rcases List.mem_cons.mp hx with rfl | hx
    · rfl
    · exact abort.block?_eq hx

/-- Closing sends nothing but what is pending. -/
theorem PublishMove.block_eq {b : Bytes} {r : Except Failure Unit}
    (m : PublishMove limits w es r w') {x : Exchange τ} (hx : x ∈ es) (hb : x.block? = some b) :
    b = w.pending.toBytes := by
  cases m with
  | stored | notStored => rw [List.mem_singleton.mp hx] at hb; cases hb
  | assembled hid hl complete => simp [complete.block?_eq hx] at hb
  | stopped hid hl upload => exact upload.block_eq hx hb
  | extended hid hl upload complete =>
    rcases List.mem_append.mp hx with hx | hx
    · exact upload.block_eq hx hb
    · simp [complete.block?_eq hx] at hb

/-- What is pending is too small for a part, and a part is one write at most beyond that. -/
structure Bounded (limits : Limits) (n : Nat) (w : Writer) (log : List (Exchange τ)) : Prop where
  pending : w.pending.size < limits.minPartSize
  parts : ∀ x ∈ log, ∀ b, x.block? = some b → b.size < limits.minPartSize + n

theorem AbortMove.pending_eq {r : Except Failure Unit} (m : AbortMove w es r w') :
    w'.pending = w.pending := by
  cases m <;> rfl

theorem PartMove.pending_eq {id : String} {block : Bytes} {isLast : Bool} {r : Except Failure Unit}
    (m : PartMove w id block isLast es r w') : w'.pending = w.pending := by
  cases m with
  | taken | interrupted => rfl
  | refused he abort => exact abort.pending_eq

theorem UploadMove.pending_eq {block : Bytes} {isLast : Bool} {r : Except Failure Unit}
    (m : UploadMove w block isLast es r w') : w'.pending = w.pending := by
  cases m with
  | further hid part => exact part.pending_eq
  | first hid u part => exact part.pending_eq
  | refused | interrupted => rfl

theorem Bounded.append {n : Nat} (h : Bounded limits n w log)
    (hp : w'.pending.size < limits.minPartSize)
    (hb : ∀ x ∈ es, ∀ b, x.block? = some b → b.size < limits.minPartSize + n) :
    Bounded limits n w' (log ++ es) :=
  ⟨hp, fun x hx => (List.mem_append.mp hx).elim (h.parts x) (hb x)⟩

theorem Bounded.move {n : Nat} {op : Operation} {r : Except Failure Answer}
    (h : Bounded limits n w log) (m : Move limits w op es r w') (hm : 0 < limits.minPartSize)
    (hop : ∀ data, op = .write (some data) → data.size ≤ n) :
    Bounded limits n w' (log ++ es) := by
  have hpending := h.pending
  have hnone : ∀ x ∈ ([] : List (Exchange τ)), ∀ b, x.block? = some b →
      b.size < limits.minPartSize + n := List.forall_mem_nil _
  have habort : ∀ {v v' : Writer} {r : Except Failure Unit}, AbortMove v es r v' →
      ∀ x ∈ es, ∀ b, x.block? = some b → b.size < limits.minPartSize + n := by
    intro v v' r abort x hx b hb
    simp [abort.block?_eq hx] at hb
  cases m with
  | write m =>
    cases m with
    | closed | notBytes | nothing => exact h.append hpending hnone
    | held hc hd hf hs => exact h.append (by rw [Pending.size_append]; exact hs) hnone
    | full hc hd hf abort =>
      exact h.append (by rw [abort.pending_eq]; exact hm) (habort abort)
    | @sent data es r w' hc hd hf hs upload =>
      refine h.append (by rw [upload.pending_eq]; exact hm) fun x hx b hb => ?_
      have hn := hop data rfl
      rw [upload.block_eq hx hb, Pending.size_toBytes, Pending.size_append]
      omega
  | close hcl m =>
    cases m with
    | again => exact h.append hpending hnone
    | published hc publish =>
      refine h.append hm fun x hx b hb => ?_
      rw [publish.block_eq hx hb, Pending.size_toBytes]
      omega
  | discard hcl m =>
    cases m with
    | again => exact h.append hpending hnone
    | dropped hc abort =>
      exact h.append (by rw [abort.pending_eq]; exact hm) (habort abort)
  | other => exact h.append hpending hnone

/-! ## How many parts there are -/

/-- The store took no more parts than an upload may have, and those of an open writer are the ones
that it counts. -/
structure Few (limits : Limits) (w : Writer) (log : List (Exchange τ)) : Prop where
  few : log.countP Exchange.isPartTaken ≤ limits.maxParts
  unbegun : w.closed = false → w.uploadId = none → log.countP Exchange.isPartTaken = 0
  begun : w.closed = false → w.uploadId.isSome → log.countP Exchange.isPartTaken = w.parts.length

theorem Few.few_append (h : Few limits w log) (hes : es.countP Exchange.isPartTaken = 0) :
    (log ++ es).countP Exchange.isPartTaken ≤ limits.maxParts := by
  rw [List.countP_append, hes, Nat.add_zero]
  exact h.few

/-- What leaves the upload alone, or the writer closed, keeps this as long as no part is taken. -/
theorem Few.append (h : Few limits w log) (hes : es.countP Exchange.isPartTaken = 0)
    (hw : w'.closed = true ∨ w'.closed = w.closed ∧ w'.uploadId = w.uploadId ∧ w'.parts = w.parts) :
    Few limits w' (log ++ es) := by
  have hcount : (log ++ es).countP Exchange.isPartTaken = log.countP Exchange.isPartTaken := by
    rw [List.countP_append, hes, Nat.add_zero]
  refine ⟨h.few_append hes, fun hc hid => ?_, fun hc hid => ?_⟩
  · obtain hc' | ⟨hc', hid', -⟩ := hw
    · simp [hc] at hc'
    · exact hcount ▸ h.unbegun (hc' ▸ hc) (hid' ▸ hid)
  · obtain hc' | ⟨hc', hid', hp'⟩ := hw
    · simp [hc] at hc'
    · rw [hcount, hp']
      exact h.begun (hc' ▸ hc) (hid' ▸ hid)

theorem AbortMove.countP_isPartTaken {r : Except Failure Unit} (m : AbortMove w es r w') :
    es.countP Exchange.isPartTaken = 0 := by
  cases m <;> rfl

theorem PartMove.few {id : String} {block : Bytes} {isLast : Bool} {r : Except Failure Unit}
    (m : PartMove w id block isLast es r w') (h : Few limits w log) (hc : w.closed = false)
    (hid : w.uploadId = some id) (hl : w.parts.length < limits.maxParts) :
    Few limits w' (log ++ es) := by
  cases m with
  | taken p =>
    have hcount : (log ++ [Exchange.call (w.partRequest id block isLast) (.ok p)]).countP
        Exchange.isPartTaken = w.parts.length + 1 := by
      rw [List.countP_append, h.begun hc (by simp [hid])]
      rfl
    refine ⟨by rw [hcount]; omega, fun _ hid' => ?_, fun _ _ => ?_⟩
    · simp [hid] at hid'
    · rw [hcount, List.length_append]
      rfl
  | refused he abort =>
    refine h.append ?_ (.inl abort.closed_eq)
    rw [List.countP_cons, abort.countP_isPartTaken]
    rfl
  | interrupted he => exact h.append rfl (.inr ⟨rfl, rfl, rfl⟩)

theorem UploadMove.few {block : Bytes} {isLast : Bool} {r : Except Failure Unit}
    (m : UploadMove w block isLast es r w') (h : Few limits w log) (hc : w.closed = false)
    (hM : 0 < limits.maxParts) (hl : w.uploadId.isSome → w.parts.length < limits.maxParts) :
    Few limits w' (log ++ es) := by
  cases m with
  | further hid part => exact part.few h hc hid (hl (by simp [hid]))
  | @first es r w' hid u part =>
    have hcount := h.unbegun hc hid
    have hbegun : Few limits { w with uploadId := some u.uploadId, parts := [] }
        (log ++ [.call (.beginUpload w.object w.info) (.ok u)]) := by
      have hcount' : (log ++ [Exchange.call (.beginUpload w.object w.info) (.ok u)]).countP
          Exchange.isPartTaken = 0 := by
        rw [List.countP_append, hcount]
        rfl
      exact ⟨by rw [hcount']; omega, fun _ _ => hcount', fun _ _ => hcount'⟩
    have := part.few hbegun hc rfl hM
    rwa [List.append_assoc, List.singleton_append] at this
  | refused hid he => exact h.append rfl (.inl rfl)
  | interrupted hid he => exact h.append rfl (.inr ⟨rfl, rfl, rfl⟩)

theorem CompleteMove.countP_isPartTaken {id : String} {r : Except Failure Unit}
    (m : CompleteMove w id es r w') : es.countP Exchange.isPartTaken = 0 := by
  cases m with
  | completed | interrupted => rfl
  | refused he abort =>
    rw [List.countP_cons, abort.countP_isPartTaken]
    rfl

/-- Closing leaves no more parts than there may be. -/
theorem PublishMove.few {r : Except Failure Unit} (m : PublishMove limits w es r w')
    (h : Few limits w log) (hc : w.closed = false) (hM : 0 < limits.maxParts) :
    (log ++ es).countP Exchange.isPartTaken ≤ limits.maxParts := by
  cases m with
  | stored | notStored => exact h.few_append rfl
  | assembled hid hl complete => exact h.few_append complete.countP_isPartTaken
  | stopped hid hl upload => exact (upload.few h hc hM fun _ => hl).few
  | extended hid hl upload complete =>
    have := (upload.few h hc hM fun _ => hl).few
    rw [← List.append_assoc, List.countP_append, complete.countP_isPartTaken, Nat.add_zero]
    exact this

theorem Few.move {op : Operation} {r : Except Failure Answer} (h : Few limits w log)
    (m : Move limits w op es r w') (hM : 0 < limits.maxParts) : Few limits w' (log ++ es) := by
  cases m with
  | write m =>
    cases m with
    | closed | notBytes | nothing | held => exact h.append rfl (.inr ⟨rfl, rfl, rfl⟩)
    | full hc hd hf abort => exact h.append abort.countP_isPartTaken (.inl abort.closed_eq)
    | @sent data es r w' hc hd hf hs upload =>
      have hw : Few limits { w with pending := .empty } log := ⟨h.few, h.unbegun, h.begun⟩
      refine upload.few hw hc hM fun hid => ?_
      simpa [isFull, show w.uploadId.isSome = true from hid] using hf
  | close hop m =>
    cases m with
    | again => exact h.append rfl (.inr ⟨rfl, rfl, rfl⟩)
    | published hc publish =>
      refine ⟨publish.few h hc hM, fun hc' => ?_, fun hc' => ?_⟩ <;> cases hc'
  | discard hop m =>
    cases m with
    | again => exact h.append rfl (.inr ⟨rfl, rfl, rfl⟩)
    | dropped hc abort => exact h.append abort.countP_isPartTaken (.inl abort.closed_eq)
  | other => exact h.append rfl (.inr ⟨rfl, rfl, rfl⟩)

/-! ## Runs -/

variable {e : Channel.Setting σ τ} {s : Writer × World (Recorded σ τ)}

theorem few_of_run (ops : List Operation) (h : Few e.limits s.1 s.2.store.log)
    (hM : 0 < e.limits.maxParts) :
    Few e.limits (final e ops s).1 (final e ops s).2.store.log := by
  induction ops generalizing s with
  | nil => exact h
  | cons op ops ih =>
    have ht : _ ∈ turns e (op :: ops) s := List.mem_cons_self
    have hstep := h.move (move_of_mem_turns ht) hM
    rw [← (serves e.recorded).log_after ht] at hstep
    exact ih hstep

theorem bounded_of_run {n : Nat} {blocks : List Bytes} (h : Bounded e.limits n s.1 s.2.store.log)
    (hm : 0 < e.limits.minPartSize) (hn : ∀ b ∈ blocks, b.size ≤ n) :
    Bounded e.limits n (final e (writes blocks) s).1 (final e (writes blocks) s).2.store.log := by
  induction blocks generalizing s with
  | nil => exact h
  | cons b blocks ih =>
    have ht : _ ∈ turns e (writes (b :: blocks)) s := List.mem_cons_self
    have hstep := h.move (move_of_mem_turns ht) hm fun data hdata => by
      obtain rfl : b = data := by simpa using hdata
      exact hn b (.head _)
    rw [← (serves e.recorded).log_after ht] at hstep
    exact ih hstep fun b hb => hn b (.tail _ hb)

/-- A closed writer stays so, and leaves the store alone. -/
theorem final_of_closed (ops : List Operation) (hc : s.1.closed = true) :
    (final e ops s).1.closed = true ∧ (final e ops s).2.store = s.2.store := by
  induction ops generalizing s with
  | nil => exact ⟨hc, rfl⟩
  | cons op ops ih =>
    obtain ⟨es, hm, hr⟩ := Writer.move e.recorded op s
    obtain ⟨rfl, hc'⟩ := hm.silent hc
    obtain ⟨hclosed, hstore⟩ := ih hc'
    exact ⟨hclosed, hstore.trans hr.eq_of_nil⟩

/-- Only a write at the part limit fails for the limit, where no request fails. It closes the writer,
having the upload aborted. -/
theorem Move.over {data : Bytes} {r : Except Failure Answer} {fault : ChannelFault}
    {cause : Option Failure} (m : Move limits w (.write (some data)) es r w')
    (hok : ∀ x ∈ es, x.succeeded) (hr : r = .error (.channel fault cause))
    (hk : fault.kind = .partLimitExceeded) :
    w.closed = false ∧ data.size ≠ 0 ∧ w.isFull limits = true ∧ w'.closed = true ∧
      ∃ r', AbortMove { w with closed := true, pending := .empty } es r' w' := by
  cases m with
  | write m =>
    cases m with
    | closed => cases hr; cases hk
    | nothing | held => cases hr
    | sent hc hd hf hs upload => rw [(upload.succeeded hok).1] at hr; cases hr
    | full hc hd hf abort => exact ⟨hc, hd, hf, abort.closed_eq, _, abort⟩
  | close hop | discard hop => simp [Operation.closes] at hop
  | other hop hw => exact absurd rfl (hw _)

theorem fault_of_kind? {χ : Type} {t : Turn χ σ} {kind : FailureKind} (h : t.kind? = some kind) :
    ∃ fault cause, t.outcome = .error (.channel fault cause) ∧ fault.kind = kind := by
  unfold Turn.kind? at h
  split at h
  · next fault cause ho => exact ⟨fault, cause, ho, Option.some.inj h⟩
  · cases h

theorem Sent.begun {sent : List SentPart} (hs : Sent w log sent) (hne : sent ≠ []) :
    ∃ u, w.uploadId = some u.uploadId ∧ log = uploadCalls w.object w.info u sent := by
  cases hs with
  | nothing => exact absurd rfl hne
  | upload hid => exact ⟨_, hid, rfl⟩

/-- A turn of some writes is one of them, after the ones before it. -/
theorem of_mem_writes {blocks : List Bytes} {t : Turn Writer (Recorded σ τ)}
    (ht : t ∈ turns e (writes blocks) s) :
    ∃ blocks₁ data blocks₂, blocks = blocks₁ ++ data :: blocks₂ ∧
      t.operation = .write (some data) ∧ t.before = final e (writes blocks₁) s := by
  obtain ⟨ops₁, ops₂, hops, hbefore, -⟩ := ChannelAction.of_mem_turns _ ht
  obtain ⟨blocks₁, rest, rfl, rfl, hrest⟩ := List.map_eq_append_iff.mp hops
  obtain ⟨data, blocks₂, rfl, hdata, -⟩ := List.map_eq_cons_iff.mp hrest
  exact ⟨blocks₁, data, blocks₂, rfl, hdata.symm, hbefore⟩

/-- What writes accept is no more than what they are given. -/
theorem size_acceptedIn_le (blocks : List Bytes) (s : Writer × World (Recorded σ τ)) :
    (acceptedIn (turns e (writes blocks) s)).size ≤ (Bytes.concat blocks).size := by
  induction blocks generalizing s with
  | nil => exact Nat.le_refl _
  | cons data blocks ih =>
    have hrest := ih (Channel.performWriter e.recorded (.write (some data)) s).2
    have hdata : (acceptedBy (.write (some data))
        (Channel.performWriter e.recorded (.write (some data)) s).1).size ≤ data.size := by
      unfold acceptedBy
      split <;> simp_all
    simp only [writes, List.map_cons, ChannelAction.turns_cons, acceptedIn_cons,
      Bytes.concat_cons, ByteArray.size_append]
    exact Nat.add_le_add hdata hrest

/-! ## The part limit -/

/-- What is left where a write went beyond the part limit: the upload was aborted, with nothing
published. -/
structure Dropped {e : Channel.Setting σ τ} (V : e.backend.View)
    (s s' : Writer × World (Recorded σ τ)) : Prop where
  closed : s'.1.closed = true
  aborted : s'.2.store.log.countP Exchange.isAbort = 1
  unpublished : s'.2.store.log.countP Exchange.isPublishing = 0
  objects : (V.holds s'.2.store.store).object = (V.holds s.2.store.store).object

/-- A turn that goes beyond the limit finds as many parts as there may be, of fewer bytes than are
written in all, and has their upload aborted. -/
theorem parts_over {o : ObjectId} {info : ObjectInfo} {blocks : List Bytes}
    {W : World (Recorded σ τ)} (hlog : W.store.log = [])
    (hok : ∀ x ∈ (final e (writes blocks) ({ object := o, info }, W)).2.store.log,
      x.succeeded = true)
    {t : Turn Writer (Recorded σ τ)} (ht : t ∈ turns e (writes blocks) ({ object := o, info }, W))
    (hk : t.kind? = some .partLimitExceeded) :
    ∃ u sent x, e.limits.maxParts ≤ sent.length ∧
      (∀ p ∈ sent, e.limits.minPartSize ≤ p.block.size) ∧
      (sentBytes sent).size < (Bytes.concat blocks).size ∧
      t.after.2.store.log = uploadCalls o info u sent ++ [.call (.abortUpload o u.uploadId) x] ∧
      t.after.1.closed = true ∧
      Account e.limits t.after.1 t.after.2.store.log (sentBytes sent) false := by
  obtain ⟨blocks₁, data, blocks₂, hblocks, hop, hbefore⟩ := of_mem_writes ht
  obtain ⟨fault, cause, hr, hfault⟩ := fault_of_kind? hk
  have hm := move_of_mem_turns ht
  have hok' := fun x hx => hok x ((serves e.recorded).mem_log ht hx)
  have ho := fun x hx => Exchange.isOrdinary_of_succeeded (hok' x hx)
  rw [hop] at hm
  obtain ⟨hopen, hd, hfull, hclosed, r', abort⟩ := hm.over hok' hr hfault
  -- the account so far
  have hinit : Account e.limits { object := o, info } W.store.log .empty false := by
    rw [hlog]
    exact .initial _ _ _
  have haccount := account_of_run (e := e) (s := ({ object := o, info }, W)) (fun x hx => Exchange.isOrdinary_of_succeeded
      (hok x ((serves e.recorded).mem_log_of_before ht (hbefore ▸ hx)))) hinit
  have htarget := final_sameTarget e (writes blocks₁) ({ object := o, info }, W)
  rw [← hbefore] at haccount htarget
  obtain ⟨sent, hs, parts, hdata⟩ := haccount.underway_of_open hopen
  obtain ⟨hne, hlimit⟩ := (hs.isFull_iff _).mp hfull
  obtain ⟨u, hid, hcalls⟩ := hs.begun hne
  rw [htarget.1, htarget.2] at hcalls
  have hopened := Account.underway hopen hs parts
  -- nothing is pending, so the parts have all that was accepted before this turn
  rw [Pending.toBytes_of_size_eq_zero (parts.full hne hlimit), ByteArray.append_empty,
    ByteArray.empty_append] at hdata
  have hsize : (sentBytes sent).size < (Bytes.concat blocks).size := by
    have hle := size_acceptedIn_le (e := e) blocks₁ ({ object := o, info }, W)
    have htotal : (Bytes.concat blocks).size =
        (Bytes.concat blocks₁).size + (data.size + (Bytes.concat blocks₂).size) := by
      rw [hblocks, size_concat_append, Bytes.concat_cons, ByteArray.size_append]
    rw [hdata] at hle
    omega
  -- the turn itself
  have hafter := hopened.move hm ho
  rw [← (serves e.recorded).log_after ht, Pending.toBytes_of_size_eq_zero (parts.full hne hlimit),
    ByteArray.append_empty, hr] at hafter
  have hid' : ({ t.before.1 with closed := true, pending := .empty } : Writer).uploadId =
    some u.uploadId := hid
  obtain ⟨⟨x, hes⟩, -, -⟩ := abort.of_upload hid' ho
  refine ⟨u, sent, x, hlimit, fun p hp => (parts.large p hp).1, hsize, ?_, hclosed, ?_⟩
  · rw [(serves e.recorded).log_after ht, hcalls, hes, htarget.1]
  · simpa [acceptedBy, publishes, Operation.closes] using hafter

/-- After a turn that goes beyond the limit nothing comes of the writer any more. -/
theorem dropped_over (V : e.backend.View) {o : ObjectId} {info : ObjectInfo} {blocks : List Bytes}
    {W : World (Recorded σ τ)} (hlog : W.store.log = [])
    (hok : ∀ x ∈ (final e (writes blocks) ({ object := o, info }, W)).2.store.log,
      x.succeeded = true)
    {t : Turn Writer (Recorded σ τ)} (ht : t ∈ turns e (writes blocks) ({ object := o, info }, W))
    (hk : t.kind? = some .partLimitExceeded) (ops : List Operation) :
    Dropped V ({ object := o, info }, W) (final e ops t.after) := by
  obtain ⟨u, sent, x, -, -, -, hcalls, hclosed, haccount⟩ := parts_over hlog hok ht hk
  obtain ⟨hclosed', hstore⟩ := final_of_closed (e := e) ops hclosed
  obtain ⟨ops₁, ops₂, -, hbefore, hp⟩ := ChannelAction.of_mem_turns _ ht
  obtain ⟨es, hruns, hes⟩ :=
    (serves e.recorded).log_final (ops₁ ++ [t.operation]) ({ object := o, info }, W)
  rw [ChannelAction.final_append, ← hbefore, ChannelAction.final_cons, hp,
    ChannelAction.final_nil] at hruns hes
  obtain rfl : es = t.after.2.store.log := by rw [hes, hlog, List.nil_append]
  refine ⟨hclosed', ?_, ?_, ?_⟩
  · rw [hstore, hcalls, List.countP_append, countP_uploadCalls fun _ _ _ _ _ => rfl]
    rfl
  · rw [hstore, hcalls, List.countP_append, countP_uploadCalls fun _ _ _ _ _ => rfl]
    rfl
  · rw [hstore]
    exact haccount.objects_before V (List.prefix_refl _) (by simp) hruns

/-- Writes that are all taken have no more bytes than the parts can have. -/
theorem size_le_of_no_limit {o : ObjectId} {info : ObjectInfo} {blocks : List Bytes} {n : Nat}
    {W : World (Recorded σ τ)} (hm : 0 < e.limits.minPartSize) (hM : 0 < e.limits.maxParts)
    (hlog : W.store.log = []) (hn : ∀ b ∈ blocks, b.size ≤ n)
    (hok : ∀ x ∈ (final e (writes blocks) ({ object := o, info }, W)).2.store.log,
      x.succeeded = true)
    (hl : ∀ t ∈ turns e (writes blocks) ({ object := o, info }, W),
      t.kind? ≠ some .partLimitExceeded) :
    ((Bytes.concat blocks).size : Int) ≤ e.limits.maxParts * (e.limits.minPartSize + n - 1) := by
  obtain ⟨hopen, houtcomes⟩ := writes_accepted (e := e) rfl hok hl
  have hinit : Account e.limits { object := o, info } W.store.log .empty false := by
    rw [hlog]
    exact .initial _ _ _
  have haccount := account_of_run (fun x hx => Exchange.isOrdinary_of_succeeded (hok x hx)) hinit
  obtain ⟨sent, hs, parts, hdata⟩ := haccount.underway_of_open hopen
  rw [ByteArray.empty_append, acceptedIn_writes houtcomes] at hdata
  have hbounded : Bounded e.limits n (final e (writes blocks) ({ object := o, info }, W)).1
      (final e (writes blocks) ({ object := o, info }, W)).2.store.log :=
    bounded_of_run ⟨hm, by rw [hlog]; exact List.forall_mem_nil _⟩ hm hn
  have hlarge : ∀ p ∈ sent, (p.block.size : Int) ≤ e.limits.minPartSize + n - 1 := by
    intro p hp
    obtain ⟨u, -, hcalls⟩ := hs.begun (List.ne_nil_of_mem hp)
    obtain ⟨i, hi, rfl⟩ := List.getElem_of_mem hp
    have hparts := hbounded.parts
    rw [hcalls] at hparts
    have := hparts _ (List.mem_cons_of_mem _ (mem_partCalls.mpr ⟨i, hi, rfl⟩)) _ rfl
    omega
  have hsent := size_sentBytes_le hlarge
  have hpending := hbounded.pending
  have hfew := parts.few
  have hsize : (Bytes.concat blocks).size = (sentBytes sent).size +
      (final e (writes blocks) ({ object := o, info }, W)).1.pending.size := by
    rw [hdata, ByteArray.size_append, Pending.size_toBytes]
  -- the last part that there may be leaves nothing pending
  by_cases hlimit : e.limits.maxParts ≤ sent.length
  · have hne : sent ≠ [] := by
      rintro rfl
      simp at hlimit
      omega
    have hzero := parts.full hne hlimit
    have hlen : (sent.length : Int) = e.limits.maxParts := by omega
    rw [hlen] at hsent
    omega
  · have hlen : (sent.length : Int) + 1 ≤ e.limits.maxParts := by omega
    have hmul := Int.mul_le_mul_of_nonneg_right hlen
      (show (0 : Int) ≤ e.limits.minPartSize + n - 1 by omega)
    rw [Int.add_mul, Int.one_mul] at hmul
    omega

/-- Where no request fails, closing goes well. -/
theorem Move.closes {r : Except Failure Answer} (m : Move limits w .close es r w')
    (hok : ∀ x ∈ es, x.succeeded) : r = .ok .none := by
  cases m with
  | close hop m =>
    cases m with
    | again => rfl
    | published hc publish => rw [publish.succeeded hok]; rfl
  | discard hop => simp at hop
  | other hop => simp [Operation.closes] at hop

/-- As many bytes as the parts have at least never go beyond the limit. -/
theorem no_limit_of_size_le {o : ObjectId} {info : ObjectInfo} {blocks : List Bytes}
    {W : World (Recorded σ τ)} (hlog : W.store.log = [])
    (hsize : (Bytes.concat blocks).size ≤ e.limits.minPartSize * e.limits.maxParts)
    (hok : ∀ x ∈ (final e (writes blocks ++ [.close]) ({ object := o, info }, W)).2.store.log,
      x.succeeded = true) :
    ∀ t ∈ turns e (writes blocks ++ [.close]) ({ object := o, info }, W),
      t.kind? ≠ some .partLimitExceeded := by
  intro t ht hk
  rw [turns, ChannelAction.turns_append] at ht
  rw [final, ChannelAction.final_append] at hok
  rcases List.mem_append.mp ht with ht | ht
  · obtain ⟨es, -, hes⟩ := (serves e.recorded).log_final [.close]
      (final e (writes blocks) ({ object := o, info }, W))
    have hok' : ∀ x ∈ (final e (writes blocks) ({ object := o, info }, W)).2.store.log,
        x.succeeded = true := fun x hx => hok x (by rw [hes]; exact List.mem_append_left _ hx)
    obtain ⟨u, sent, x, hlimit, hlarge, hless, -⟩ := parts_over hlog hok' ht hk
    have hsent := le_size_sentBytes (m := e.limits.minPartSize) fun p hp =>
      Int.ofNat_le.mpr (hlarge p hp)
    have hmul := Int.mul_le_mul_of_nonneg_right hlimit (Int.natCast_nonneg e.limits.minPartSize)
    rw [Int.mul_comm] at hmul
    omega
  · obtain ⟨fault, cause, hr, -⟩ := fault_of_kind? hk
    obtain rfl := List.mem_singleton.mp ht
    have hr' := (move_of_mem_turns ht).closes fun x hx =>
      hok x ((serves e.recorded).mem_log ht hx)
    rw [hr'] at hr
    cases hr

/-- All of the blocks were taken, and closing published them. -/
structure Taken {e : Channel.Setting σ τ} (V : e.backend.View) (blocks : List Bytes)
    (s : Writer × World (Recorded σ τ)) : Prop where
  outcomes : (turns e (writes blocks ++ [.close]) s).map (·.outcome) =
    (blocks.map fun data => .ok (.count data.size)) ++ [.ok .none]
  objects : (V.holds (final e (writes blocks ++ [.close]) s).2.store.store).object =
    ((V.holds s.2.store.store).setObject s.1.object
      (some (V.keep s.1.info (.concat blocks)))).object
  bytes : ((V.holds (final e (writes blocks ++ [.close]) s).2.store.store).object
    s.1.object).map (·.data) = some (.concat blocks)

theorem taken_of_no_limit (V : e.backend.View) {o : ObjectId} {info : ObjectInfo}
    {blocks : List Bytes} {W : World (Recorded σ τ)} (hlog : W.store.log = [])
    (hok : ∀ x ∈ (final e (writes blocks ++ [.close]) ({ object := o, info }, W)).2.store.log,
      x.succeeded = true)
    (hl : ∀ t ∈ turns e (writes blocks ++ [.close]) ({ object := o, info }, W),
      t.kind? ≠ some .partLimitExceeded) : Taken V blocks ({ object := o, info }, W) := by
  obtain ⟨houtcomes, hclosed, sent, pending, parts, hdata, -, -, hpub⟩ :=
    published_of_writes hlog hok hl
  obtain ⟨hobject, hinfo⟩ : _ = o ∧ _ = info :=
    final_sameTarget e (writes blocks ++ [.close]) ({ object := o, info }, W)
  obtain ⟨es, hruns, hes⟩ :=
    (serves e.recorded).log_final (writes blocks ++ [.close]) ({ object := o, info }, W)
  rw [hlog, List.nil_append] at hes
  have hended := Account.closed hclosed (.published parts (by rw [hobject, hinfo]; exact hpub))
  have hobjects := hended.objects_after V (hes ▸ hruns)
  rw [hobject, hinfo, ← hdata] at hobjects
  exact ⟨houtcomes, hobjects, by simp [hobjects, V.data_keep]⟩

/-- What the part limit comes to over all runs of a writer. -/
structure PartLimit {e : Channel.Setting σ τ} (V : e.backend.View)
    (s : Writer × World (Recorded σ τ)) : Prop where
  /-- As many bytes as there may be parts, times the least size of a part, are taken and published
  however they are split, where no request fails. -/
  fits : ∀ blocks, (Bytes.concat blocks).size ≤ e.limits.minPartSize * e.limits.maxParts →
    (∀ x ∈ (final e (writes blocks ++ [.close]) s).2.store.log, x.succeeded = true) →
    (∀ t ∈ turns e (writes blocks ++ [.close]) s, t.kind? ≠ some .partLimitExceeded) ∧
      Taken V blocks s
  /-- Of more bytes than the parts can have, where writes have no more than `n` each, some write
  goes beyond the limit. The upload is aborted then and nothing published, whatever is done
  afterwards. -/
  exceeds : ∀ blocks, ∀ n : Nat, 1 ≤ n → (∀ b ∈ blocks, b.size ≤ n) →
    e.limits.maxParts * (e.limits.minPartSize + n - 1) < (Bytes.concat blocks).size →
    (∀ x ∈ (final e (writes blocks) s).2.store.log, x.succeeded = true) →
    ∃ t ∈ turns e (writes blocks) s, t.kind? = some .partLimitExceeded ∧
      ∀ ops, Dropped V s (final e ops t.after)
  /-- No upload ever has more parts, whatever is done and whatever fails or is interrupted. -/
  few : ∀ ops id, ((final e ops s).2.store.log.countP fun x => x.isPartOf id && x.isPartTaken) ≤
    e.limits.maxParts

/-- **What a writer takes at least and at most**, and that no upload has too many parts. -/
theorem part_limit (e : Channel.Setting σ τ) (V : e.backend.View) (o : ObjectId)
    (info : ObjectInfo) (W : World (Recorded σ τ)) (hm : 1 ≤ e.limits.minPartSize)
    (hM : 1 ≤ e.limits.maxParts) (hlog : W.store.log = []) :
    PartLimit V ({ object := o, info }, W) := by
  refine ⟨?fits, ?exceeds, ?few⟩
  case fits =>
    intro blocks hsize hok
    have hl := no_limit_of_size_le hlog hsize hok
    exact ⟨hl, taken_of_no_limit V hlog hok hl⟩
  case exceeds =>
    intro blocks n _ hn hsize hok
    have hover : ∃ t ∈ turns e (writes blocks) ({ object := o, info }, W),
        t.kind? = some .partLimitExceeded := by
      by_contra hl
      have hl' := fun t ht hk => hl ⟨t, ht, hk⟩
      have := size_le_of_no_limit hm hM hlog hn hok hl'
      omega
    obtain ⟨t, ht, hk⟩ := hover
    exact ⟨t, ht, hk, dropped_over V hlog hok ht hk⟩
  case few =>
    intro ops id
    have hinit : Few e.limits ({ object := o, info } : Writer) W.store.log := by
      rw [hlog]
      exact ⟨by simp; omega, fun _ _ => rfl, fun _ _ => rfl⟩
    have hle : ((final e ops ({ object := o, info }, W)).2.store.log.countP fun x =>
          x.isPartOf id && x.isPartTaken) ≤
        (final e ops ({ object := o, info }, W)).2.store.log.countP Exchange.isPartTaken :=
      List.countP_mono_left fun x _ hx => (Bool.and_eq_true_iff.mp hx).2
    have := (few_of_run (e := e) (s := ({ object := o, info }, W)) ops hinit hM).few
    exact Int.le_trans (Int.ofNat_le.mpr hle) this

/-- Six bytes fit three parts of two in any case. Ten do not where no write has more than two. -/
theorem part_limit_of_small_parts :
    Taken (e := smallParts) (Store.memoryView _ _) [⟨#[1]⟩, ⟨#[2, 3]⟩, ⟨#[4]⟩, ⟨#[5, 6]⟩]
        ({ object := ⟨"bucket", "key"⟩, info := {} }, Store.emptyWorld) ∧
      ∃ t ∈ turns smallParts (writes [⟨#[1]⟩, ⟨#[2, 3]⟩, ⟨#[4]⟩, ⟨#[5, 6]⟩, ⟨#[7]⟩, ⟨#[8, 9]⟩, ⟨#[10]⟩])
          ({ object := ⟨"bucket", "key"⟩, info := {} }, Store.emptyWorld),
        t.kind? = some .partLimitExceeded ∧
          ∀ ops, Dropped (e := smallParts) (Store.memoryView _ _)
            ({ object := ⟨"bucket", "key"⟩, info := {} }, Store.emptyWorld)
            (final smallParts ops t.after) :=
  have h := part_limit smallParts (Store.memoryView _ _) ⟨"bucket", "key"⟩ {} Store.emptyWorld
    (by decide) (by decide) rfl
  ⟨(h.fits _ (by decide +kernel) (by decide +kernel)).2,
    h.exceeds _ 2 (by decide) (by decide +kernel) (by decide +kernel) (by decide +kernel)⟩

end Writer

end ObjectChannel
