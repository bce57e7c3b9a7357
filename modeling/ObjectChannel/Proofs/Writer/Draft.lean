/-
What an open writer has put together so far: the parts that the store has of its upload, and the
bytes that are pending. Every request may fail or be interrupted, and other channels may have
changed the rest of the store before.

A move either leaves the writer open, with a draft of all that it still has (`Draft.move`), or it
closes the writer; and it changes no object, unless it publishes the draft. An interrupted write is
the one move that leaves an open writer with less than before: what was pending is lost with it.
-/
import ObjectChannel.Proofs.Writer.Effect

namespace ObjectChannel

variable {σ τ : Type}

@[simp] theorem blockAt_nil (n : Int) : blockAt [] n = none := by
  simp [blockAt]

theorem Numbered.concat {sent : List SentPart} (hn : Numbered sent) {p : SentPart}
    (hp : p.part.number = (sent.length + 1 : Nat)) : Numbered (sent ++ [p]) := by
  intro i hi
  by_cases hlast : i < sent.length
  · rw [List.getElem_append_left hlast]
    exact hn i hlast
  · have hi : i = sent.length := by
      simp only [List.length_append, List.length_singleton] at hi
      omega
    subst hi
    simpa using hp

namespace Writer

/-! ## Deposits -/

/-- What the store has of a writer: nothing, or an upload with the blocks that were sent. -/
inductive Deposit (keep : ObjectInfo → Bytes → StoredObject) (h : Holdings) (w : Writer) :
    List SentPart → Prop where
  | nothing (hid : w.uploadId = none) (hp : w.parts = []) : Deposit keep h w []
  | upload {id : String} {sent : List SentPart} (hid : w.uploadId = some id)
    (hp : w.parts = sent.map (·.part)) (hn : Numbered sent)
    (hu : h.upload id = some ⟨keep w.info, blockAt (sent.map (·.block))⟩) : Deposit keep h w sent

/-- What an open writer is going to publish: the blocks that the store has, and then the bytes that
are pending. At the part limit nothing is. -/
structure Draft (limits : Limits) (keep : ObjectInfo → Bytes → StoredObject) (h : Holdings)
    (w : Writer) (data : Bytes) : Prop where
  deposit : ∃ sent, Deposit keep h w sent ∧ data = sentBytes sent ++ w.pending.toBytes
  full : w.isFull limits = true → w.pending.size = 0

/-- An interrupt ended the write. -/
def cutShort : Operation → Except Failure Answer → Bool
  | .write _, .error e => e.isInterrupt
  | _, _ => false

/-- What is left of a draft after an operation with this outcome. A write that was cut short takes
with it what was pending before. -/
def keptBy (w : Writer) (op : Operation) (r : Except Failure Answer) (data : Bytes) : Bytes :=
  if cutShort op r then data.take (data.size - w.pending.size) else data ++ acceptedBy op r

/-- All but writes leave a draft as it is. -/
theorem keptBy_of_not_write (w : Writer) {op : Operation} (hw : ∀ d, op ≠ .write d)
    (r : Except Failure Answer) (data : Bytes) : keptBy w op r data = data := by
  have hcut : cutShort op r = false := by
    unfold cutShort
    split
    · exact absurd rfl (hw _)
    · rfl
  have haccepted : acceptedBy op r = .empty := by
    unfold acceptedBy
    split
    · exact absurd rfl (hw _)
    · rfl
  rw [keptBy, hcut, haccepted, ByteArray.append_empty]
  rfl

/-- Where nothing was pending, nothing is lost. -/
theorem keptBy_of_none_lost {w : Writer} {op : Operation} {r : Except Failure Answer}
    (h : cutShort op r = true → w.pending.size = 0) (data : Bytes) :
    keptBy w op r data = data ++ acceptedBy op r := by
  cases hcut : cutShort op r with
  | false => simp only [keptBy, hcut, Bool.false_eq_true, ite_false]
  | true =>
    have haccepted : acceptedBy op r = .empty := by
      unfold cutShort at hcut
      split at hcut
      · next d e => cases d <;> rfl
      · cases hcut
    rw [keptBy, hcut, h hcut, haccepted, ByteArray.append_empty]
    exact Bytes.take_of_size_le (Nat.le_refl _)

section

variable {keep : ObjectInfo → Bytes → StoredObject} {h h' : Holdings} {w w' : Writer}
  {sent : List SentPart}

theorem Deposit.congr (hd : Deposit keep h w sent) (hid : w'.uploadId = w.uploadId)
    (hp : w'.parts = w.parts) (hi : w'.info = w.info) : Deposit keep h w' sent := by
  cases hd with
  | nothing hid' hp' => exact .nothing (hid.trans hid') (hp.trans hp')
  | upload hid' hp' hn hu => exact .upload (hid.trans hid') (hp.trans hp') hn (hi ▸ hu)

/-- A deposit stays as long as the writer's own upload does. -/
theorem Deposit.of_upload_eq (hd : Deposit keep h w sent)
    (hu : ∀ id, w.uploadId = some id → h'.upload id = h.upload id) : Deposit keep h' w sent := by
  cases hd with
  | nothing hid hp => exact .nothing hid hp
  | upload hid hp hn hu' => exact .upload hid hp hn ((hu _ hid).trans hu')

theorem Draft.of_upload_eq {limits : Limits} {data : Bytes} (hd : Draft limits keep h w data)
    (hu : ∀ id, w.uploadId = some id → h'.upload id = h.upload id) :
    Draft limits keep h' w data := by
  obtain ⟨sent, hdep, hdata⟩ := hd.deposit
  exact ⟨⟨sent, hdep.of_upload_eq hu, hdata⟩, hd.full⟩

theorem Draft.noted {limits : Limits} {data : Bytes} (hd : Draft limits keep h w data)
    (p : Option Int) : Draft limits keep h { w with notedPosition := p } data := by
  obtain ⟨sent, hdep, hdata⟩ := hd.deposit
  exact ⟨⟨sent, hdep.congr rfl rfl rfl, hdata⟩, hd.full⟩

/-- A writer that has nothing yet. -/
theorem Draft.initial (limits : Limits) (keep : ObjectInfo → Bytes → StoredObject) (h : Holdings)
    (o : ObjectId) (info : ObjectInfo) : Draft limits keep h { object := o, info } .empty :=
  ⟨⟨[], .nothing rfl rfl, rfl⟩, fun _ => rfl⟩

/-- Without what is pending, a draft is what the store has. -/
theorem take_sentBytes (sent : List SentPart) (p : Pending) :
    (sentBytes sent ++ p.toBytes).take ((sentBytes sent ++ p.toBytes).size - p.size) =
      sentBytes sent := by
  have hn : (sentBytes sent ++ p.toBytes).size - p.size = (sentBytes sent).size := by
    rw [ByteArray.size_append, p.size_toBytes, Nat.add_sub_cancel]
  rw [hn, Bytes.take_append (Nat.le_refl _), Nat.sub_self, Bytes.take_zero, ByteArray.append_empty]

end

/-! ## Moves over drafts -/

section

variable {b : Backend σ τ} (V : b.View) {limits : Limits} {w w' : Writer}
  {es : List (Exchange τ)} {sent : List SentPart} {s s' : σ}

/-- An abort changes nothing that channels can tell. -/
theorem AbortMove.holds_eq {r : Except Failure Unit} (m : AbortMove w es r w')
    (hr : b.Runs s es s') : V.holds s' = V.holds s := by
  cases m with
  | none => cases hr; rfl
  | attempt hid x =>
    cases hr with
    | call hc rest =>
      cases rest
      cases x with
      | ok u => exact V.call_ok (r := .abortUpload _ _) trivial hc
      | error e => exact V.call_error hc

/-- A block becomes the next part of the deposit; or an interrupt leaves all as it was; or the
writer is closed. -/
theorem PartMove.deposit {id : String} {block : Bytes} {isLast : Bool} {r : Except Failure Unit}
    (m : PartMove w id block isLast es r w') (hr : b.Runs s es s')
    (hd : Deposit V.keep (V.holds s) w sent) (hid : w.uploadId = some id) :
    (V.holds s').object = (V.holds s).object ∧
      ((∃ p, p.block = block ∧ r = .ok () ∧ w' = { w with parts := (sent ++ [p]).map (·.part) } ∧
          Deposit V.keep (V.holds s') w' (sent ++ [p])) ∨
        (∃ e, r = .error e ∧ e.isInterrupt = true ∧ w' = w ∧ V.holds s' = V.holds s) ∨
        ((∃ e, r = .error e) ∧ w'.closed = true)) := by
  cases m with
  | taken p =>
    cases hr with
    | call hc rest =>
      cases rest
      cases hd with
      | nothing hid' => simp [hid] at hid'
      | upload hid' hp hn hu =>
        obtain rfl : id = _ := by simpa [hid] using hid'
        have hlength : w.parts.length = sent.length := by rw [hp, List.length_map]
        have hnumber : p.number = (sent.length + 1 : Nat) := by
          rw [V.part_number hc, hlength]
        have hafter := V.call_ok (r := w.partRequest id block isLast) rfl hc
        simp only [partRequest, Holdings.after, hu] at hafter
        refine ⟨by rw [hafter, Holdings.setUpload_object], .inl ⟨⟨block, isLast, p⟩, rfl, rfl,
          by simp [hp], .upload hid (by simp [hp]) (hn.concat hnumber) ?_⟩⟩
        rw [hafter, Holdings.setUpload_self, Assembly.setPart, hlength]
        congr 2
        funext n
        simp [blockAt_concat]
  | refused he abort =>
    cases hr with
    | call hc rest =>
      have hholds := (abort.holds_eq V rest).trans (V.call_error hc)
      refine ⟨by rw [hholds], .inr (.inr ⟨?_, ?_⟩)⟩
      · cases abort with
        | none => exact ⟨_, rfl⟩
        | attempt hid x =>
          cases x with
          | ok u => exact ⟨_, rfl⟩
          | error e => cases he : e.isInterrupt <;> simp [afterAbort, raised, he]
      · cases abort <;> rfl
  | interrupted he =>
    cases hr with
    | call hc rest =>
      cases rest
      have hholds := V.call_error hc
      exact ⟨by rw [hholds], .inr (.inl ⟨_, rfl, he, rfl, hholds⟩)⟩

/-- As for a part, but for an upload that is begun if there is none. -/
theorem UploadMove.deposit {block : Bytes} {isLast : Bool} {r : Except Failure Unit}
    (m : UploadMove w block isLast es r w') (hr : b.Runs s es s')
    (hd : Deposit V.keep (V.holds s) w sent) :
    (V.holds s').object = (V.holds s).object ∧
      ((∃ id p, (∀ id', w.uploadId = some id' → id' = id) ∧ p.block = block ∧ r = .ok () ∧
          w' = { w with uploadId := some id, parts := (sent ++ [p]).map (·.part) } ∧
          Deposit V.keep (V.holds s') w' (sent ++ [p])) ∨
        (∃ e, r = .error e ∧ e.isInterrupt = true ∧ w'.closed = w.closed ∧
          w'.pending = w.pending ∧ Deposit V.keep (V.holds s') w' sent) ∨
        ((∃ e, r = .error e) ∧ w'.closed = true)) := by
  cases m with
  | further hid part =>
    obtain ⟨hobject, ⟨p, hb, rfl, rfl, hd'⟩ | ⟨e, rfl, he, rfl, hholds⟩ | hclosed⟩ :=
      part.deposit V hr hd hid
    · exact ⟨hobject, .inl ⟨_, p, fun _ h => Option.some.inj (h.symm.trans hid), hb, rfl,
        by rw [hid], hd'⟩⟩
    · exact ⟨hobject, .inr (.inl ⟨e, rfl, he, rfl, rfl, by rw [hholds]; exact hd⟩)⟩
    · exact ⟨hobject, .inr (.inr hclosed)⟩
  | first hid u part =>
    cases hd with
    | upload hid' => simp [hid] at hid'
    | nothing _ hp =>
      cases hr with
      | @call _ _ _ s₁ _ _ hc rest =>
        have hafter := V.call_ok (r := .beginUpload w.object w.info) trivial hc
        have hbegun : Deposit V.keep (V.holds s₁)
            { w with uploadId := some u.uploadId, parts := [] } [] := by
          refine .upload rfl rfl (by intro i hi; simp at hi) ?_
          rw [hafter]
          simp only [Holdings.after, Holdings.setUpload_self, List.map_nil]
          congr 2
          funext n
          rw [blockAt_nil]
        have hobject₁ : (V.holds s₁).object = (V.holds s).object := by rw [hafter]; rfl
        obtain ⟨hobject, ⟨p, hb, rfl, rfl, hd'⟩ | ⟨e, rfl, he, rfl, hholds⟩ | hclosed⟩ :=
          part.deposit V rest hbegun rfl
        · exact ⟨hobject.trans hobject₁,
            .inl ⟨_, p, fun _ h => by simp [hid] at h, hb, rfl, rfl, hd'⟩⟩
        · exact ⟨hobject.trans hobject₁,
            .inr (.inl ⟨e, rfl, he, rfl, rfl, by rw [hholds]; exact hbegun⟩)⟩
        · exact ⟨hobject.trans hobject₁, .inr (.inr hclosed)⟩
  | refused hid he =>
    cases hr with
    | call hc rest =>
      cases rest
      exact ⟨by rw [V.call_error hc], .inr (.inr ⟨⟨_, rfl⟩, rfl⟩)⟩
  | interrupted hid he =>
    cases hr with
    | call hc rest =>
      cases rest
      have hholds := V.call_error hc
      exact ⟨by rw [hholds], .inr (.inl ⟨_, rfl, he, rfl, rfl, by rw [hholds]; exact hd⟩)⟩

/-- Completing an upload makes its object of the deposit, or nothing at all. -/
theorem CompleteMove.deposit {id : String} {r : Except Failure Unit}
    (m : CompleteMove w id es r w') (hr : b.Runs s es s')
    (hd : Deposit V.keep (V.holds s) w sent) (hid : w.uploadId = some id) :
    (r = .ok () ∧ (V.holds s').object = ((V.holds s).setObject w.object
        (some (V.keep w.info (sentBytes sent)))).object) ∨
      (∃ e, r = .error e) ∧ (V.holds s').object = (V.holds s).object := by
  cases m with
  | completed =>
    cases hr with
    | call hc rest =>
      cases rest
      cases hd with
      | nothing hid' => simp [hid] at hid'
      | upload hid' hp hn hu =>
        obtain rfl : id = _ := by simpa [hid] using hid'
        have horderly : Request.IsOrderly (.completeUpload w.object id w.parts) := by
          rw [hp]
          exact hn.pairwise
        have hafter := V.call_ok horderly hc
        simp only [Holdings.after, hu] at hafter
        rw [hp, Assembly.assemble_of_numbered hn] at hafter
        exact .inl ⟨rfl, by rw [hafter]⟩
  | @refused e es r w' he abort =>
    cases hr with
    | call hc rest =>
      have hholds := (abort.holds_eq V rest).trans (V.call_error hc)
      refine .inr ⟨?_, by rw [hholds]⟩
      cases r <;> exact ⟨_, rfl⟩
  | interrupted he =>
    cases hr with
    | call hc rest =>
      cases rest
      exact .inr ⟨⟨_, rfl⟩, by rw [V.call_error hc]⟩

/-- Publishing makes the object of the draft, or changes no object at all. -/
theorem PublishMove.draft {r : Except Failure Unit} {data : Bytes}
    (m : PublishMove limits w es r w') (hr : b.Runs s es s')
    (hd : Draft limits V.keep (V.holds s) w data) :
    (r = .ok () ∧ (V.holds s').object = ((V.holds s).setObject w.object
        (some (V.keep w.info data))).object) ∨
      (∃ e, r = .error e) ∧ (V.holds s').object = (V.holds s).object := by
  obtain ⟨sent, hdep, rfl⟩ := hd.deposit
  cases m with
  | stored hid x =>
    cases hr with
    | call hc rest =>
      cases rest
      cases hdep with
      | upload hid' => simp [hid] at hid'
      | nothing =>
        rw [V.call_ok (r := .put _ _ _ _) rfl hc, sentBytes_nil, ByteArray.empty_append]
        exact .inl ⟨rfl, rfl⟩
  | notStored hid e =>
    cases hr with
    | call hc rest =>
      cases rest
      exact .inr ⟨⟨_, rfl⟩, by rw [V.call_error hc]⟩
  | @assembled id es r w' hid hl complete =>
    have hfull : w.isFull limits = true := by simp [isFull, hid, hl]
    rw [Pending.toBytes_of_size_eq_zero (hd.full hfull), ByteArray.append_empty]
    exact complete.deposit V hr hdep hid
  | @extended id es w₁ es' r w₂ hid hl upload complete =>
    obtain ⟨s₁, hr₁, hr₂⟩ := hr.of_append
    obtain ⟨hobject, ⟨id', p, hid', hb, -, rfl, hdep'⟩ | ⟨e, he, -⟩ | ⟨⟨e, he⟩, -⟩⟩ :=
      upload.deposit V hr₁ hdep
    · obtain rfl := hid' id hid
      obtain ⟨rfl, hpub⟩ | ⟨he, hsame⟩ := complete.deposit V hr₂ hdep' rfl
      · refine .inl ⟨rfl, ?_⟩
        rw [hpub, sentBytes_concat, hb]
        simp only [Holdings.setObject, hobject]
      · exact .inr ⟨he, hsame.trans hobject⟩
    · cases he
    · cases he
  | stopped hid hl upload =>
    exact .inr ⟨⟨_, rfl⟩, (upload.deposit V hr hdep).1⟩

/-- After a write the writer has a draft of what it kept, unless it is closed. -/
theorem WriteMove.draft {d : Option Bytes} {r : Except Failure Nat} {data : Bytes}
    (m : WriteMove limits w d es r w') (hr : b.Runs s es s')
    (hd : Draft limits V.keep (V.holds s) w data) :
    (V.holds s').object = (V.holds s).object ∧ (w'.closed = false →
      Draft limits V.keep (V.holds s') w' (keptBy w (.write d) (do return .count (← r)) data)) := by
  cases m with
  | closed hc =>
    cases hr
    exact ⟨rfl, fun hopen => by simp [hc] at hopen⟩
  | notBytes hc =>
    cases hr
    refine ⟨rfl, fun _ => ?_⟩
    show Draft _ _ _ w (data ++ .empty)
    rwa [ByteArray.append_empty]
  | @nothing d hc hsize =>
    cases hr
    refine ⟨rfl, fun _ => ?_⟩
    obtain rfl : d = .empty := ByteArray.size_eq_zero_iff.mp hsize
    show Draft _ _ _ w (data ++ .empty)
    rwa [ByteArray.append_empty]
  | full hc hsize hf abort =>
    refine ⟨by rw [abort.holds_eq V hr], fun hopen => ?_⟩
    cases abort <;> cases hopen
  | @held d hc hsize hf hsmall =>
    cases hr
    refine ⟨rfl, fun _ => ?_⟩
    obtain ⟨sent, hdep, rfl⟩ := hd.deposit
    refine ⟨⟨sent, hdep.congr rfl rfl rfl, ?_⟩, fun hfull => ?_⟩
    · rw [Pending.toBytes_append, ← ByteArray.append_assoc]
      rfl
    · exact absurd (hf.symm.trans hfull) Bool.false_ne_true
  | @sent d es r w' hc hsize hf hlarge upload =>
    obtain ⟨blocks, hdep, rfl⟩ := hd.deposit
    have hdep' : Deposit V.keep (V.holds s) { w with pending := .empty } blocks :=
      hdep.congr rfl rfl rfl
    obtain ⟨hobject, ⟨id, p, -, hb, rfl, rfl, hdep''⟩ | ⟨e, rfl, he, -, hpending, hdep''⟩ |
      ⟨-, hclosed⟩⟩ := upload.deposit V hr hdep'
    · refine ⟨hobject, fun _ => ⟨⟨_, hdep'', ?_⟩, fun _ => rfl⟩⟩
      rw [sentBytes_concat, hb, Pending.toBytes_append, Pending.toBytes_empty,
        ByteArray.append_empty, ← ByteArray.append_assoc]
      rfl
    · -- what was pending is gone, and the writer is open as if it had never been written
      have hnone : w'.pending = .empty := hpending
      refine ⟨hobject, fun _ => ⟨⟨_, hdep'', ?_⟩, fun _ => by rw [hnone, Pending.size_empty]⟩⟩
      rw [hnone, Pending.toBytes_empty, ByteArray.append_empty]
      exact (if_pos he).trans (take_sentBytes blocks w.pending)
    · exact ⟨hobject, fun hopen => by simp [hclosed] at hopen⟩

/-- **A move publishes the draft or changes no object**, and a writer that it leaves open has a draft
of what was kept. -/
theorem Draft.move {op : Operation} {r : Except Failure Answer} {data : Bytes}
    (hd : Draft limits V.keep (V.holds s) w data) (hc : w.closed = false)
    (m : Move limits w op es r w') (hr : b.Runs s es s') :
    if publishes w op r then
      w'.closed = true ∧ (V.holds s').object = ((V.holds s).setObject w.object
        (some (V.keep w.info data))).object
    else (V.holds s').object = (V.holds s).object ∧
      (w'.closed = false → Draft limits V.keep (V.holds s') w' (keptBy w op r data)) := by
  cases m with
  | write m => exact m.draft V hr hd
  | @close op es r w' hop m =>
    cases m with
    | again hc' => simp [hc] at hc'
    | published hc' publish =>
      obtain ⟨rfl, hpub⟩ | ⟨⟨e, rfl⟩, hsame⟩ := publish.draft V hr hd
      · have hp : publishes w op (do Except.ok (); return Answer.none) = true := by
          rw [publishes, hop, hc]
          rfl
        rw [hp]
        exact ⟨rfl, hpub⟩
      · have hp : publishes w op (do Except.error (α := Unit) e; return Answer.none) = false := by
          rw [publishes, hop, hc]
          rfl
        rw [hp]
        exact ⟨hsame, fun h => by cases h⟩
  | @discard op es r w' hop m =>
    have hp : publishes w op (do r; return Answer.none) = false := by
      rcases hop with rfl | rfl <;> rfl
    rw [hp]
    cases m with
    | again hc' => simp [hc] at hc'
    | dropped hc' abort =>
      refine ⟨by rw [abort.holds_eq V hr], fun hopen => ?_⟩
      cases abort <;> cases hopen
  | @other op r p hop hw =>
    have hp : publishes w op r = false := by rw [publishes, hop]; rfl
    cases hr
    rw [hp, keptBy_of_not_write w hw]
    exact ⟨rfl, fun _ => hd.noted p⟩

end

/-! ## Ordinary failures -/

section

variable {limits : Limits} {w w' : Writer} {es : List (Exchange τ)}

theorem PartMove.ordinary {id : String} {block : Bytes} {isLast : Bool} {r : Except Failure Unit}
    (m : PartMove w id block isLast es r w') (ho : ∀ x ∈ es, x.isOrdinary) {e : Failure}
    (he : r = .error e) : e.isInterrupt = false := by
  cases m with
  | taken => cases he
  | refused _ abort =>
    rw [abort.outcome fun y hy => ho y (.tail _ hy)] at he
    cases he
    rfl
  | interrupted hi => exact (Exchange.false_of_interrupt hi ho).elim

theorem UploadMove.ordinary {block : Bytes} {isLast : Bool} {r : Except Failure Unit}
    (m : UploadMove w block isLast es r w') (ho : ∀ x ∈ es, x.isOrdinary) {e : Failure}
    (he : r = .error e) : e.isInterrupt = false := by
  cases m with
  | further _ part => exact part.ordinary ho he
  | first _ _ part => exact part.ordinary (fun y hy => ho y (.tail _ hy)) he
  | refused =>
    cases he
    rfl
  | interrupted _ hi => exact (Exchange.false_of_interrupt hi ho).elim

/-- Ordinary failures cut no write short, so that nothing is lost. -/
theorem Move.keptBy_of_ordinary {op : Operation} {r : Except Failure Answer}
    (m : Move limits w op es r w') (ho : ∀ x ∈ es, x.isOrdinary) (data : Bytes) :
    keptBy w op r data = data ++ acceptedBy op r := by
  refine keptBy_of_none_lost (fun hcut => ?_) data
  cases m with
  | write m =>
    cases m with
    | closed | notBytes | nothing | held => cases hcut
    | full hc hd hf abort =>
      rw [abort.outcome ho] at hcut
      cases hcut
    | @sent d es r w' hc hd hf hs upload =>
      cases r with
      | ok u => cases hcut
      | error e =>
        have hordinary := upload.ordinary ho rfl
        exact absurd (hordinary.symm.trans hcut) Bool.false_ne_true
  | close hop => cases op <;> first | cases hcut | cases hop
  | discard hop =>
    rcases hop with rfl | rfl
    · cases hcut
    · cases hcut
  | other hop hw =>
    cases op with
    | write d => exact absurd rfl (hw d)
    | _ => cases hcut

end

end Writer

end ObjectChannel
