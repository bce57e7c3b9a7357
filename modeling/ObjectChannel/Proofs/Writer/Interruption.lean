/-
What a writer publishes where requests may be interrupted as well as fail. An interrupt that stops a
write leaves the writer open, but without the bytes that were pending: they were taken out for the
part that the write was about to send. Closing then publishes what is left.

`publishes_kept` tells the published object exactly, and that it has all of the accepted data unless
a write was interrupted with bytes pending. `interrupted_write_loses_pending` is such a run.
-/
import ObjectChannel.Proofs.MemoryView
import ObjectChannel.Proofs.Writer.Draft

namespace ObjectChannel.Writer

variable {σ τ : Type}

/-- What is left of some data after some turns. -/
def keptFrom (data : Bytes) (ts : List (Turn Writer σ)) : Bytes :=
  ts.foldl (fun data t => keptBy t.before.1 t.operation t.outcome data) data

/-- What is kept of the data that were accepted in some turns. -/
def keptIn (ts : List (Turn Writer σ)) : Bytes := keptFrom .empty ts

theorem keptFrom_of_none_lost {ts : List (Turn Writer σ)}
    (h : ∀ t ∈ ts, cutShort t.operation t.outcome = true → t.before.1.pending.size = 0)
    (data : Bytes) : keptFrom data ts = data ++ acceptedIn ts := by
  induction ts generalizing data with
  | nil => exact ByteArray.append_empty.symm
  | cons t ts ih =>
    rw [acceptedIn_cons, ← ByteArray.append_assoc, ← keptBy_of_none_lost (h t (.head _))]
    exact ih (fun t ht => h t (.tail _ ht)) _

/-! ## Standings -/

/-- How a writer stands to a store that held `h` when it was opened: with a draft of its data, with
nothing to come of them, or with all of them published. -/
inductive Standing {b : Backend σ τ} (V : b.View) (limits : Limits) (h : Holdings) (w : Writer)
    (s : σ) (data : Bytes) : Bool → Prop where
  | drafting (hc : w.closed = false) (hd : Draft limits V.keep (V.holds s) w data)
    (ho : (V.holds s).object = h.object) : Standing V limits h w s data false
  | dropped (hc : w.closed = true) (ho : (V.holds s).object = h.object) :
    Standing V limits h w s data false
  | published (hc : w.closed = true)
    (ho : (V.holds s).object = (h.setObject w.object (some (V.keep w.info data))).object) :
    Standing V limits h w s data true

variable {b : Backend σ τ} {V : b.View} {limits : Limits} {h : Holdings} {w w' : Writer}
  {s s' : σ} {op : Operation} {es : List (Exchange τ)} {r : Except Failure Answer} {data : Bytes}

/-- A closed writer accepts nothing, and loses nothing. -/
theorem Move.keptBy_eq (m : Move limits w op es r w') (hc : w.closed = true) (data : Bytes) :
    keptBy w op r data = data := by
  cases m with
  | @write d _ _ _ m =>
    cases m with
    | closed => cases d <;> exact ByteArray.append_empty
    | notBytes hc' | nothing hc' | full hc' | sent hc' | held hc' => simp [hc] at hc'
  | close hop => exact keptBy_of_not_write w (fun _ h => by simp [h, Operation.closes] at hop) _ _
  | discard hop => exact keptBy_of_not_write w (fun _ h => by simp [h] at hop) _ _
  | other hop hw => exact keptBy_of_not_write w hw _ _

/-- Every move keeps a standing. -/
theorem Standing.move {published : Bool} (hs : Standing V limits h w s data published)
    (m : Move limits w op es r w') (hr : b.Runs s es s') :
    Standing V limits h w' s' (keptBy w op r data) (published || publishes w op r) := by
  -- a closed writer asks for nothing
  have hsilent : w.closed = true → w'.closed = true ∧ s' = s ∧ keptBy w op r data = data ∧
      publishes w op r = false := by
    intro hc
    obtain ⟨rfl, hc'⟩ := m.silent hc
    cases hr
    exact ⟨hc', rfl, m.keptBy_eq hc data, by simp [publishes, hc]⟩
  cases hs with
  | dropped hc ho =>
    obtain ⟨hc', rfl, hkept, hp⟩ := hsilent hc
    rw [hp, hkept]
    exact .dropped hc' ho
  | published hc ho =>
    obtain ⟨hc', rfl, hkept, -⟩ := hsilent hc
    rw [hkept]
    refine .published hc' ?_
    rw [m.sameTarget.1, m.sameTarget.2]
    exact ho
  | drafting hc hd ho =>
    have hmove := hd.move V hc m hr
    cases hp : publishes w op r with
    | true =>
      rw [hp] at hmove
      have hkept : keptBy w op r data = data := by
        refine keptBy_of_not_write w (fun d hop => ?_) r data
        simp [publishes, hop, Operation.closes] at hp
      rw [hkept]
      refine .published hmove.1 ?_
      rw [hmove.2, m.sameTarget.1, m.sameTarget.2]
      simp only [Holdings.setObject, ho]
    | false =>
      rw [hp] at hmove
      cases hc' : w'.closed with
      | true => exact .dropped hc' (hmove.1.trans ho)
      | false => exact .drafting hc' (hmove.2 hc') (hmove.1.trans ho)

/-- Every run keeps a standing. -/
theorem standing_of_run {e : Channel.Setting σ τ} {V : e.backend.View} (ops : List Operation)
    {s : Writer × World σ} {published : Bool}
    (hs : Standing V e.limits h s.1 s.2.store data published) :
    Standing V e.limits h (ChannelAction.final (Channel.performWriter e) ops s).1
      (ChannelAction.final (Channel.performWriter e) ops s).2.store
      (keptFrom data (ChannelAction.turns (Channel.performWriter e) ops s))
      (published || publishedIn (ChannelAction.turns (Channel.performWriter e) ops s)) := by
  induction ops generalizing s data published with
  | nil => simpa [publishedIn, keptFrom] using hs
  | cons op ops ih =>
    obtain ⟨es, m, hr⟩ := Writer.move e op s
    have := ih (hs.move m hr)
    rwa [Bool.or_assoc] at this

/-- **Whatever requests fail or are interrupted, a writer publishes what it kept, or nothing.** It
kept all that was accepted, unless an interrupt stopped a write while bytes were pending. -/
theorem publishes_kept (e : Channel.Setting σ τ) (V : e.backend.View) (o : ObjectId)
    (info : ObjectInfo) (ops : List Operation) (W : World σ) :
    let ts := ChannelAction.turns (Channel.performWriter e) ops ({ object := o, info }, W)
    let after := ChannelAction.final (Channel.performWriter e) ops ({ object := o, info }, W)
    (V.holds after.2.store).object =
        (if publishedIn ts then (V.holds W.store).setObject o (some (V.keep info (keptIn ts)))
          else V.holds W.store).object ∧
      ((∀ t ∈ ts, cutShort t.operation t.outcome = true → t.before.1.pending.size = 0) →
        keptIn ts = acceptedIn ts ∧ (publishedIn ts = true →
          ((V.holds after.2.store).object o).map (·.data) = some (acceptedIn ts))) := by
  intro ts after
  have hstart : Standing V e.limits (V.holds W.store) { object := o, info } W.store .empty false :=
    .drafting rfl (.initial _ _ _ _ _) rfl
  have htarget : SameTarget { object := o, info } after.1 := sameTarget_of_run e ops _
  have hobject : (V.holds after.2.store).object =
      (if publishedIn ts then (V.holds W.store).setObject o (some (V.keep info (keptIn ts)))
        else V.holds W.store).object := by
    have hrun := standing_of_run (s := ({ object := o, info }, W)) ops hstart
    rw [Bool.false_or] at hrun
    change Standing V e.limits _ after.1 _ (keptIn ts) (publishedIn ts) at hrun
    cases hp : publishedIn ts with
    | false =>
      rw [hp] at hrun
      cases hrun with
      | drafting _ _ ho | dropped _ ho => exact ho
    | true =>
      rw [hp] at hrun
      cases hrun with
      | published _ ho =>
        rw [htarget.1, htarget.2] at ho
        exact ho
  refine ⟨hobject, fun hnone => ?_⟩
  have hkept : keptIn ts = acceptedIn ts :=
    (keptFrom_of_none_lost hnone .empty).trans ByteArray.empty_append
  refine ⟨hkept, fun hp => ?_⟩
  rw [hobject, hp, hkept]
  simp [V.data_keep]

/-- A store in memory that is interrupted as it is sent a part for the second time. -/
def interruptedSecondPart : Channel.Setting Store.MemoryStore Store.Stream where
  backend := Store.memoryBackend (.ofRules [⟨.uploadPart, some 2, .raise .interrupted⟩]) fun _ => {}
  limits := { minPartSize := 2 }

/-- Two bytes are sent, and the next write is interrupted with nothing pending. What is accepted before and
after it is published. -/
theorem publishes_kept_around_interrupt :
    let ts := ChannelAction.turns (Channel.performWriter interruptedSecondPart)
      [.write (some ⟨#[97, 98]⟩), .write (some ⟨#[99, 100]⟩), .write (some ⟨#[101]⟩), .close]
      ({ object := ⟨"bucket", "key"⟩, info := {} }, { store := {} })
    let after := ChannelAction.final (Channel.performWriter interruptedSecondPart)
      [.write (some ⟨#[97, 98]⟩), .write (some ⟨#[99, 100]⟩), .write (some ⟨#[101]⟩), .close]
      ({ object := ⟨"bucket", "key"⟩, info := {} }, { store := {} })
    (ts.any fun t => cutShort t.operation t.outcome) = true ∧
      (∀ t ∈ ts, cutShort t.operation t.outcome = true → t.before.1.pending.size = 0) ∧
      keptIn ts = ⟨#[97, 98, 101]⟩ ∧
      (after.2.store.contents.object? ⟨"bucket", "key"⟩).map (·.data) = some ⟨#[97, 98, 101]⟩ := by
  intro ts after
  have hpending : ∀ t ∈ ts, cutShort t.operation t.outcome = true → t.before.1.pending.size = 0 := by
    decide +kernel
  have haccepted : acceptedIn ts = ⟨#[97, 98, 101]⟩ := by decide +kernel
  have hpublished : publishedIn ts = true := by decide +kernel
  obtain ⟨-, hkept⟩ := publishes_kept interruptedSecondPart (Store.memoryView _ _) ⟨"bucket", "key"⟩ {}
    [.write (some ⟨#[97, 98]⟩), .write (some ⟨#[99, 100]⟩), .write (some ⟨#[101]⟩), .close] { store := {} }
  obtain ⟨hall, hdata⟩ := hkept hpending
  exact ⟨by decide +kernel, hpending, hall.trans haccepted,
    (hdata hpublished).trans (congrArg some haccepted)⟩

/-- A store in memory whose first upload is interrupted as it is begun. -/
def interruptedUpload : Channel.Setting Store.MemoryStore Store.Stream where
  backend := Store.memoryBackend (.ofRules [⟨.beginUpload, some 1, .raise .interrupted⟩]) fun _ => {}
  limits := { minPartSize := 4 }

/-- Two bytes are accepted, the next write is interrupted, and closing goes well: with an object that
lacks the two bytes. -/
theorem interrupted_write_loses_pending :
    let ts := ChannelAction.turns (Channel.performWriter interruptedUpload)
      [.write (some ⟨#[97, 98]⟩), .write (some ⟨#[99, 100]⟩), .close]
      ({ object := ⟨"bucket", "key"⟩, info := {} }, { store := {} })
    let after := ChannelAction.final (Channel.performWriter interruptedUpload)
      [.write (some ⟨#[97, 98]⟩), .write (some ⟨#[99, 100]⟩), .close]
      ({ object := ⟨"bucket", "key"⟩, info := {} }, { store := {} })
    publishedIn ts = true ∧ acceptedIn ts = ⟨#[97, 98]⟩ ∧
      (after.2.store.contents.object? ⟨"bucket", "key"⟩).map (·.data) = some .empty := by
  decide +kernel

end ObjectChannel.Writer
