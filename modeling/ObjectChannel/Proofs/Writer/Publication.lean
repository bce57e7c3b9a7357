/-
What closing a writer publishes where no request fails: the bytes of all writes, one after the other,
whatever the sizes that they came in; with one request if they are few, and as parts otherwise.
-/
import ObjectChannel.Proofs.MemoryView
import ObjectChannel.Proofs.Writer.Effect

namespace ObjectChannel

variable {σ τ : Type}

/-- The parts as completing an upload lists them. -/
def numberedParts (sent : List SentPart) : List CompletedPart :=
  sent.mapIdx fun i p => { number := (i + 1 : Nat), tag := p.part.tag }

theorem Numbered.map_part {sent : List SentPart} (hn : Numbered sent) :
    sent.map (·.part) = numberedParts sent := by
  apply List.ext_getElem (by simp [numberedParts])
  intro i hi _
  have hi : i < sent.length := by simpa using hi
  simp only [List.getElem_map, numberedParts, List.getElem_mapIdx, ← hn i hi]

theorem eq_of_uploadCalls_prefix {o : ObjectId} {info : ObjectInfo} {u u' : MultipartUpload}
    {sent sent' : List SentPart} {es : List (Exchange τ)}
    (h : uploadCalls o info u sent <+: uploadCalls o info u' sent' ++ es) : u = u' := by
  obtain ⟨rest, h⟩ := h
  simp only [uploadCalls, List.cons_append, List.cons.injEq] at h
  cases h.1
  rfl

theorem size_block_le {sent : List SentPart} {p : SentPart} (hp : p ∈ sent) :
    p.block.size ≤ (sentBytes sent).size := by
  obtain ⟨a, b, rfl⟩ := List.append_of_mem hp
  simp only [← Bytes.length_toList, sentBytes, Bytes.toList_concat]
  simp
  omega

namespace Writer

/-! ## What publishing asks for -/

section

variable {limits : Limits} {pending : Pending} {sent last : List SentPart}

theorem LastPart.one_or_none (h : LastPart limits pending sent last) :
    (limits.maxParts ≤ sent.length ∧ last = []) ∨
      ((sent.length : Int) < limits.maxParts ∧ ∃ p, last = [p] ∧ p.isLast = true) := by
  cases h with
  | none hl => exact .inl ⟨hl, rfl⟩
  | one hl hp hb => exact .inr ⟨hl, _, rfl, hp⟩

/-- With its last part an upload has no more parts than it may have. -/
theorem LastPart.length_le (h : LastPart limits pending sent last)
    (parts : Underway limits pending sent) (hM : 0 < limits.maxParts) :
    ((sent ++ last).length : Int) ≤ limits.maxParts := by
  have hfew := parts.few
  cases h with
  | none hl => simp; omega
  | one hl hp hb => simp; omega

/-- Data that were stored with one request are smaller than a part, and others are not. -/
theorem Published.small_or_large {o : ObjectId} {info : ObjectInfo} {log : List (Exchange τ)}
    (h : Published limits o info pending sent log) (parts : Underway limits pending sent)
    (hm : 0 < limits.minPartSize) {data : Bytes}
    (hdata : data = sentBytes sent ++ pending.toBytes) :
    (sent = [] ∧ data.size < limits.minPartSize ∧
      ∃ x, log = [.call (.put o data data.size info) (.ok x)]) ∨
    (sent ≠ [] ∧ limits.minPartSize ≤ data.size ∧ ∃ u last, LastPart limits pending sent last ∧
      log = uploadCalls o info u (sent ++ last) ++
        [.call (.completeUpload o u.uploadId ((sent ++ last).map (·.part))) (.ok ())]) := by
  cases h with
  | stored x =>
    rw [sentBytes_nil, ByteArray.empty_append] at hdata
    have hsize : data.size = pending.size := by rw [hdata, Pending.size_toBytes]
    have hsmall := parts.small
    exact .inl ⟨rfl, by omega, x, by rw [hdata]⟩
  | completed hne hlast =>
    obtain ⟨p, hp⟩ := List.exists_mem_of_ne_nil sent hne
    have hblock := size_block_le hp
    have hlarge := (parts.large p hp).1
    have hsize : data.size = (sentBytes sent).size + pending.toBytes.size := by
      rw [hdata, ByteArray.size_append]
    exact .inr ⟨hne, by omega, _, _, hlast, rfl⟩

end

/-! ## Moves where no request fails -/

section

variable {limits : Limits} {w w' : Writer} {es : List (Exchange τ)}

theorem PartMove.succeeded {id : String} {block : Bytes} {isLast : Bool}
    {r : Except Failure Unit} (h : PartMove w id block isLast es r w')
    (hok : ∀ x ∈ es, x.succeeded) : r = .ok () ∧ w'.closed = w.closed := by
  cases h with
  | taken => exact ⟨rfl, rfl⟩
  | refused | interrupted => cases hok _ (.head _)

theorem UploadMove.succeeded {block : Bytes} {isLast : Bool} {r : Except Failure Unit}
    (h : UploadMove w block isLast es r w') (hok : ∀ x ∈ es, x.succeeded) :
    r = .ok () ∧ w'.closed = w.closed := by
  cases h with
  | further hid part => exact part.succeeded hok
  | first hid u part => exact part.succeeded fun x hx => hok x (.tail _ hx)
  | refused | interrupted => cases hok _ (.head _)

theorem CompleteMove.succeeded {id : String} {r : Except Failure Unit}
    (h : CompleteMove w id es r w') (hok : ∀ x ∈ es, x.succeeded) : r = .ok () := by
  cases h with
  | completed => rfl
  | refused | interrupted => cases hok _ (.head _)

theorem PublishMove.succeeded {r : Except Failure Unit} (h : PublishMove limits w es r w')
    (hok : ∀ x ∈ es, x.succeeded) : r = .ok () := by
  cases h with
  | stored => rfl
  | notStored => cases hok _ (.head _)
  | assembled hid hl complete => exact complete.succeeded hok
  | extended hid hl upload complete =>
    exact complete.succeeded fun x hx => hok x (List.mem_append_right _ hx)
  | stopped hid hl upload => exact (upload.succeeded hok).1

/-- A write that is not beyond the part limit takes its data, and leaves the writer open. -/
theorem Move.accepts {data : Bytes} {r : Except Failure Answer}
    (h : Move limits w (.write (some data)) es r w') (hok : ∀ x ∈ es, x.succeeded)
    (hc : w.closed = false) (hl : r ≠ .error (.ofChannel (.partLimit limits.maxParts w.object))) :
    r = .ok (.count data.size) ∧ w'.closed = false := by
  cases h with
  | write m =>
    cases m with
    | closed hc' => simp [hc] at hc'
    | nothing hc' hd => exact ⟨by rw [hd]; rfl, hc⟩
    | held => exact ⟨rfl, hc⟩
    | sent hc' hd hf hs upload =>
      obtain ⟨rfl, hc'⟩ := upload.succeeded hok
      exact ⟨rfl, hc'.trans hc⟩
    | full hc' hd hf abort =>
      rw [abort.outcome fun x hx => Exchange.isOrdinary_of_succeeded (hok x hx)] at hl
      exact absurd rfl hl
  | close hop | discard hop => simp [Operation.closes] at hop
  | other hop hw => exact absurd rfl (hw _)

/-- Closing an open writer asks for the rest of what publishes the data. -/
theorem Move.publishes {log : List (Exchange τ)} {sent : List SentPart}
    {r : Except Failure Answer} (h : Move limits w .close es r w')
    (hok : ∀ x ∈ es, x.succeeded) (hc : w.closed = false) (hs : Sent w log sent) :
    r = .ok .none ∧ w'.closed = true ∧
      Published limits w'.object w'.info w.pending sent (log ++ es) := by
  cases h with
  | close hop m =>
    cases m with
    | again hc' => simp [hc] at hc'
    | published hc' publish =>
      obtain rfl := publish.succeeded hok
      have ho := fun x hx => Exchange.isOrdinary_of_succeeded (hok x hx)
      obtain ⟨-, hpub⟩ | ⟨⟨e, he⟩, -⟩ := publish.account ho hs
      · exact ⟨rfl, rfl, hpub⟩
      · cases he
  | discard hop => simp at hop
  | other hop => simp [Operation.closes] at hop

end

/-! ## Writing and closing -/

/-- The operations that write some blocks. -/
def writes (blocks : List Bytes) : List Operation := blocks.map fun data => .write (some data)

variable {e : Channel.Setting σ τ} {s : Writer × World (Recorded σ τ)}

/-- Where nothing fails and no write is beyond the part limit, all writes take their data. -/
theorem writes_accepted {blocks : List Bytes} (hc : s.1.closed = false)
    (hok : ∀ x ∈ (final e (writes blocks) s).2.store.log, x.succeeded)
    (hl : ∀ t ∈ turns e (writes blocks) s, t.kind? ≠ some .partLimitExceeded) :
    (final e (writes blocks) s).1.closed = false ∧
      (turns e (writes blocks) s).map (·.outcome) =
        blocks.map fun data => .ok (.count data.size) := by
  induction blocks generalizing s with
  | nil => exact ⟨hc, rfl⟩
  | cons data blocks ih =>
    have ht : _ ∈ turns e (writes (data :: blocks)) s := List.mem_cons_self
    have hsucceeded := fun x hx => hok x ((serves e.recorded).mem_log ht hx)
    obtain ⟨hr, hc'⟩ := (move_of_mem_turns ht).accepts hsucceeded hc fun hr =>
      hl _ ht (Turn.kind?_of_outcome hr)
    obtain ⟨hclosed, houtcomes⟩ := ih hc' hok fun t ht => hl t (.tail _ ht)
    exact ⟨hclosed, congrArg₂ List.cons hr houtcomes⟩

/-- Writes that take their data have accepted all of it. -/
theorem acceptedIn_writes {blocks : List Bytes}
    (h : (turns e (writes blocks) s).map (·.outcome) =
      blocks.map fun data => .ok (.count data.size)) :
    acceptedIn (turns e (writes blocks) s) = .concat blocks := by
  rw [acceptedIn]
  congr 1
  induction blocks generalizing s with
  | nil => rfl
  | cons data blocks ih =>
    simp only [writes, List.map_cons, ChannelAction.turns_cons, List.cons.injEq] at h ⊢
    exact ⟨by rw [h.1]; rfl, ih h.2⟩

/-- What a run that writes some blocks and closes comes to. -/
structure Publication (V : e.backend.View) (blocks : List Bytes)
    (s : Writer × World (Recorded σ τ)) : Prop where
  /-- Every write takes its data, and closing goes well. -/
  outcomes : (turns e (writes blocks ++ [.close]) s).map (·.outcome) =
    (blocks.map fun data => .ok (.count data.size)) ++ [.ok .none]
  /-- The object has the bytes of all blocks, and the other objects are as they were. -/
  object : (V.holds (final e (writes blocks ++ [.close]) s).2.store.store).object =
    ((V.holds s.2.store.store).setObject s.1.object
      (some (V.keep s.1.info (.concat blocks)))).object
  bytes : ((V.holds (final e (writes blocks ++ [.close]) s).2.store.store).object
    s.1.object).map (·.data) = some (.concat blocks)
  /-- Few bytes are stored with one request. -/
  small : (Bytes.concat blocks).size < e.limits.minPartSize →
    ∃ x, (final e (writes blocks ++ [.close]) s).2.store.log =
      [.call (.put s.1.object (.concat blocks) (Bytes.concat blocks).size s.1.info) (.ok x)]
  /-- More are sent as the parts of one upload. Those that writes send are no smaller than a part may
  be, and closing adds a last one unless there are as many parts as there may be. -/
  large : e.limits.minPartSize ≤ (Bytes.concat blocks).size → ∃ u sent last,
    (final e (writes blocks) s).2.store.log = uploadCalls s.1.object s.1.info u sent ∧
    (final e (writes blocks ++ [.close]) s).2.store.log =
      uploadCalls s.1.object s.1.info u (sent ++ last) ++
        [.call (.completeUpload s.1.object u.uploadId (numberedParts (sent ++ last))) (.ok ())] ∧
    sentBytes (sent ++ last) = .concat blocks ∧
    (∀ p ∈ sent, e.limits.minPartSize ≤ p.block.size ∧ p.isLast = false) ∧
    ((e.limits.maxParts ≤ sent.length ∧ last = []) ∨
      ((sent.length : Int) < e.limits.maxParts ∧ ∃ p, last = [p] ∧ p.isLast = true)) ∧
    ((sent ++ last).length : Int) ≤ e.limits.maxParts

/-- After the writes the account is open, and closing ends it. -/
theorem published_of_writes {o : ObjectId} {info : ObjectInfo} {blocks : List Bytes}
    {W : World (Recorded σ τ)} (hlog : W.store.log = [])
    (hok : ∀ x ∈ (final e (writes blocks ++ [.close]) ({ object := o, info }, W)).2.store.log,
      x.succeeded = true)
    (hl : ∀ t ∈ turns e (writes blocks ++ [.close]) ({ object := o, info }, W),
      t.kind? ≠ some .partLimitExceeded) :
    (turns e (writes blocks ++ [.close]) ({ object := o, info }, W)).map (·.outcome) =
        (blocks.map fun data => .ok (.count data.size)) ++ [.ok .none] ∧
      (final e (writes blocks ++ [.close]) ({ object := o, info }, W)).1.closed = true ∧
      ∃ sent pending, Underway e.limits pending sent ∧
        Bytes.concat blocks = sentBytes sent ++ pending.toBytes ∧
        (final e (writes blocks) ({ object := o, info }, W)).2.store.log <+:
          (final e (writes blocks ++ [.close]) ({ object := o, info }, W)).2.store.log ∧
        (sent ≠ [] → ∃ u, (final e (writes blocks) ({ object := o, info }, W)).2.store.log =
          uploadCalls o info u sent) ∧
        Published e.limits o info pending sent
          (final e (writes blocks ++ [.close]) ({ object := o, info }, W)).2.store.log := by
  let s₁ := final e (writes blocks) ({ object := o, info }, W)
  have hfinal : final e (writes blocks ++ [.close]) ({ object := o, info }, W) =
      final e [.close] s₁ := ChannelAction.final_append ..
  have hturns : turns e (writes blocks ++ [.close]) ({ object := o, info }, W) =
      turns e (writes blocks) ({ object := o, info }, W) ++ turns e [.close] s₁ :=
    ChannelAction.turns_append ..
  rw [hfinal] at hok ⊢
  rw [hturns] at hl ⊢
  -- the writes
  have hpre : s₁.2.store.log <+: (final e [.close] s₁).2.store.log := by
    obtain ⟨es, -, hes⟩ := (serves e.recorded).log_final [.close] s₁
    exact ⟨es, hes.symm⟩
  have hok₁ : ∀ x ∈ s₁.2.store.log, x.succeeded = true := fun x hx => hok x (hpre.subset hx)
  obtain ⟨hopen, houtcomes⟩ := writes_accepted rfl hok₁ fun t ht => hl t (List.mem_append_left _ ht)
  have hinit : Account e.limits { object := o, info } W.store.log .empty false := by
    rw [hlog]
    exact .initial _ _ _
  have haccount := account_of_run (fun x hx => Exchange.isOrdinary_of_succeeded (hok₁ x hx)) hinit
  obtain ⟨sent, hs, parts, hdata⟩ := haccount.underway_of_open hopen
  rw [ByteArray.empty_append, acceptedIn_writes houtcomes] at hdata
  have htarget := final_sameTarget e (writes blocks) ({ object := o, info }, W)
  -- the closing
  have ht : _ ∈ turns e [.close] s₁ := List.mem_cons_self
  have hm := move_of_mem_turns ht
  obtain ⟨hr, hclosed, hpub⟩ := hm.publishes (fun x hx => hok x ((serves e.recorded).mem_log ht hx))
    hopen hs
  rw [hm.sameTarget.1, hm.sameTarget.2, htarget.1, htarget.2,
    ← (serves e.recorded).log_after ht] at hpub
  refine ⟨?_, hclosed, sent, s₁.1.pending, parts, hdata, hpre, fun hne => ?_, hpub⟩
  · rw [List.map_append, houtcomes]
    exact congrArg (_ ++ [·]) hr
  · obtain ⟨u, hu⟩ := hs.calls hne
    rw [htarget.1, htarget.2] at hu
    exact ⟨u, hu⟩

/-- **Where no request fails, a writer publishes the bytes that were written to it**: with one
request if they are fewer than a part may have, and as the parts of one upload otherwise. -/
theorem publication (e : Channel.Setting σ τ) (V : e.backend.View) (o : ObjectId)
    (info : ObjectInfo) (blocks : List Bytes) (W : World (Recorded σ τ))
    (hm : 0 < e.limits.minPartSize) (hM : 0 < e.limits.maxParts) (hlog : W.store.log = [])
    (hok : ∀ x ∈ (final e (writes blocks ++ [.close]) ({ object := o, info }, W)).2.store.log,
      x.succeeded = true)
    (hl : ∀ t ∈ turns e (writes blocks ++ [.close]) ({ object := o, info }, W),
      t.kind? ≠ some .partLimitExceeded) :
    Publication V blocks ({ object := o, info }, W) := by
  obtain ⟨houtcomes, hclosed, sent, pending, parts, hdata, hpre, hbefore, hpub⟩ :=
    published_of_writes hlog hok hl
  have htarget := final_sameTarget e (writes blocks ++ [.close]) ({ object := o, info }, W)
  obtain ⟨es, hruns, hes⟩ :=
    (serves e.recorded).log_final (writes blocks ++ [.close]) ({ object := o, info }, W)
  obtain rfl : es =
      (final e (writes blocks ++ [.close]) ({ object := o, info }, W)).2.store.log := by
    rw [final, hes, hlog, List.nil_append]
  have haccount : Account e.limits (final e (writes blocks ++ [.close]) ({ object := o, info }, W)).1
      (final e (writes blocks ++ [.close]) ({ object := o, info }, W)).2.store.log
      (.concat blocks) true := by
    rw [hdata]
    refine .closed hclosed (.published parts ?_)
    rw [htarget.1, htarget.2]
    exact hpub
  have hobject := haccount.objects_after V hruns
  rw [htarget.1, htarget.2] at hobject
  refine ⟨houtcomes, hobject, by simp [hobject, V.data_keep], fun hsmall => ?_, fun hlarge => ?_⟩
  · obtain ⟨-, -, hput⟩ | ⟨-, hsize, -⟩ := hpub.small_or_large parts hm hdata
    · exact hput
    · omega
  · obtain ⟨-, hsize, -⟩ | ⟨hne, -, u, last, hlast, hcalls⟩ := hpub.small_or_large parts hm hdata
    · omega
    · obtain ⟨u', hu'⟩ := hbefore hne
      rw [hu', hcalls] at hpre
      obtain rfl := eq_of_uploadCalls_prefix hpre
      have hn : Numbered (sent ++ last) := by
        refine numbered_of_runs V hruns o u'.uploadId fun x hx => ?_
        rw [hcalls]
        exact List.mem_append_left _ (.tail _ hx)
      refine ⟨u', sent, last, hu', ?_, ?_, parts.large, hlast.one_or_none, ?_⟩
      · rw [hcalls, hn.map_part]
      · rw [hdata, hlast.sentBytes_append parts hne]
      · exact hlast.length_le parts hM

/-- A store in memory, for parts of at least two bytes and at most three of them. -/
def smallParts : Channel.Setting Store.MemoryStore Store.Stream where
  backend := Store.memoryBackend .none fun _ => {}
  limits := { minPartSize := 2, maxParts := 3 }

theorem publication_of_five_blocks :
    Publication (e := smallParts) (Store.memoryView _ _)
      [⟨#[1]⟩, ⟨#[2, 3, 4]⟩, .empty, ⟨#[5, 6]⟩, ⟨#[7]⟩]
      ({ object := ⟨"bucket", "key"⟩, info := {} }, Store.emptyWorld) :=
  publication smallParts (Store.memoryView _ _) _ _ _ _ (by decide) (by decide) rfl
    (by decide +kernel) (by decide +kernel)

end Writer

end ObjectChannel
