/-
Many channels at a time over one store, their operations in any order, with any requests failing in
the ordinary way. What the store holds under a name is what was decided last about it; what a channel
decides comes from its own life alone; and the parts of one writer are never those of another.
-/
import ObjectChannel.Proofs.MemoryView
import ObjectChannel.Proofs.Session.Invariant

namespace ObjectChannel.Session

variable {σ τ : Type} {service : Service σ τ} {V : service.backend.View} {limits : Limits}
  {names : ContentType.NameTypes} {sound : σ → Prop} {honest : τ → Prop}
  {initial : ObjectId → Option Bytes} {past : List (Step σ)} {s : Session σ}

/-! ## Uses of channels -/

/-- What a use of a channel has to leave: the decided content, the uploads of other channels as they
were and none of them for its own, and the channel where its life has led it. -/
structure Used (V : service.backend.View) (limits : Limits) (sound : σ → Prop) (st : σ) (l : Life σ)
    (op : Operation) (c : Channel) (r : Except Failure Answer) (c' : Channel) (st' : σ) : Prop where
  sound : sound st'
  content : ∀ o, (V.holds st').bytes o =
    match if r.isOk && !c.isClosed then l.decides service V limits.platform op else none with
    | some (k, x) => if o.path = k.path then x else (V.holds st).bytes o
    | none => (V.holds st).bytes o
  uploads : ∀ id, (V.holds st).upload id ≠ none → openUpload c ≠ some id →
    (V.holds st').upload id = (V.holds st).upload id ∧ openUpload c' ≠ some id
  fits : Fits V limits (V.holds st') { l with uses := l.uses ++ [(op, r)] } c'

section

variable {st st' : σ} {l : Life σ} {op : Operation} {es : List (Exchange τ)}

/-! ### Writers -/

/-- What the close of a writer decides: the object, with all that was accepted. -/
theorem decides_of_writer {name key : String} {contentType : Option String}
    {metadata : Metadata} {o : ObjectId}
    (opening : l.opening.command = .openWriter name key contentType metadata)
    (ho : service.objectId key = .ok o) (op : Operation) :
    l.decides service V limits.platform op = if op.closes then some (o, some l.accepted) else none := by
  simp only [Life.decides, opening, ho]

variable {w w' : Writer} {r : Except Failure Answer}

theorem Used.closedWriter (hs : sound st) (hfits : Fits V limits (V.holds st) l (.writer w))
    (hclosed : w.closed = true) (m : w.Move limits op es r w')
    (hr : service.backend.Runs st es st') :
    Used V limits sound st l op (.writer w) r (.writer w') st' := by
  obtain ⟨rfl, hclosed'⟩ := m.silent hclosed
  cases hr
  cases hfits with
  | writer opening ho hw =>
    refine ⟨hs, fun k => ?_, fun id _ _ => ⟨rfl, by simp [openUpload, hclosed']⟩,
      .writer opening ho (m.sameTarget.1.trans hw) fun h => by simp [hclosed'] at h⟩
    simp [Channel.isClosed, hclosed]

/-- The upload of an open writer is its own, and what it publishes is what it has accepted. -/
theorem Used.openWriter (hu : V.NamesUploads sound) (hf : service.backend.FailsOrdinarily)
    (hs : sound st) (hfits : Fits V limits (V.holds st) l (.writer w)) (hclosed : w.closed = false)
    (m : w.Move limits op es r w') (hr : service.backend.Runs st es st') :
    Used V limits sound st l op (.writer w) r (.writer w') st' := by
  cases hfits with
  | @writer _ _ _ _ o _ opening ho hw hd =>
    have hdraft := hd hclosed
    have hmove := hdraft.move V hclosed m hr
    have hdecision : (if r.isOk && !(Channel.writer w).isClosed then l.decides service V limits.platform op
        else none) = if w.publishes op r then some (o, some l.accepted) else none := by
      simp only [decides_of_writer opening ho, Channel.isClosed, Writer.publishes, hclosed]
      cases op.closes <;> cases r.isOk <;> rfl
    refine ⟨hu.sound_of_runs hr hs, fun k => ?_, fun id hid hne => ?_,
      .writer opening ho (m.sameTarget.1.trans hw) fun hclosed' => ?_⟩
    · rw [hdecision]
      cases hpub : w.publishes op r with
      | true =>
        rw [hpub] at hmove
        have hbytes : (V.holds st').bytes k =
            ((V.holds st).setObject w.object (some (V.keep w.info l.accepted))).bytes k :=
          congrArg (fun f => (f k).map (·.data)) hmove.2
        rw [hbytes, Holdings.bytes_setObject, hw]
        simp [V.data_keep]
      | false =>
        rw [hpub] at hmove
        exact congrArg (fun f => (f k).map (·.data)) hmove.1
    · have hne' : w.uploadId ≠ some id := by
        intro h
        exact hne (openUpload_writer.mpr ⟨hclosed, h⟩)
      obtain ⟨hsame, hother⟩ := hdraft.apart hu hs m hr hid hne'
      exact ⟨hsame, fun h => hother (openUpload_writer.mp h).2⟩
    · have hpub : w.publishes op r = false := by
        cases hpub : w.publishes op r with
        | false => rfl
        | true =>
          rw [hpub] at hmove
          exact hmove.1.symm.trans hclosed'
      rw [hpub] at hmove
      rw [Life.accepted_use, ← m.keptBy_of_ordinary (hf.of_runs hr)]
      exact hmove.2 hclosed'

/-! ### Readers -/

theorem Used.reader (hu : V.NamesUploads sound) (hs : sound st) {x x' : Reader}
    (hfits : Fits V limits (V.holds st) l (.reader x)) (hlook : service.backend.Looks st st') :
    Used V limits sound st l op (.reader x) r (.reader x') st' := by
  obtain ⟨es, hr, hlook⟩ := hlook
  have hholds := V.holds_of_looks hr hlook
  cases hfits with
  | reader opening =>
    have hdecides : l.decides service V limits.platform op = none := by simp only [Life.decides, opening]
    refine ⟨hu.sound_of_runs hr hs, fun k => ?_, fun id _ _ => ?_, .reader opening⟩
    · rw [hholds, hdecides, ite_self]
    · rw [hholds]
      exact ⟨rfl, openUpload_reader⟩

/-! ### Mirrored channels -/

/-- What the close of an open mirrored channel decides is what closing settles. -/
theorem decides_of_mirrored {name key : String} {q : OpenRequest} {o : ObjectId}
    {os : OpenOptions} {m : Mirrored} (opening : l.opening.command = .openChannel name key q)
    (ho : service.objectId key = .ok o) (hos : OpenOptions.ofGiven q.options = .ok os)
    (hm : m.options = os) (hclosed : m.closed = false) (hf : m.file.bytes = l.file V limits.platform o os)
    (op : Operation) :
    l.decides service V limits.platform op = if op.isClosing then m.settles.map fun x => (o, x) else none := by
  have hcontent : Bytes.ofList (l.file V limits.platform o os).content = m.file.content := by
    rw [← hf]
    exact Bytes.ext_toList (Bytes.toList_ofList _)
  simp only [Life.decides, opening, ho, hos, Mirrored.settles, hclosed, hm, hcontent]
  cases op.isClosing <;> cases os.has .deleteOnClose <;> cases os.isReadOnly <;> rfl

/-- Until it is closed, a mirrored channel works on its own file alone. -/
theorem Used.mirror (hs : sound st) {m m' : Mirrored}
    (hfits : Fits V limits (V.holds st) l (.mirrored m)) (hop : op.isClosing = false)
    (hm : m'.object = m.object ∧ m'.options = m.options ∧ m'.closed = m.closed)
    (hfile : ∀ os, m.closed = false → m.file.IsFor os →
      m'.file.IsFor os ∧ m'.file.bytes = (ByteFile.perform limits.platform os op m.file.bytes).2) :
    Used V limits sound st l op (.mirrored m) r (.mirrored m') st := by
  obtain ⟨hobject, hoptions, hclosed'⟩ := hm
  cases hfits with
  | @mirrored _ _ _ o os _ opening ho hos hm hf =>
    refine ⟨hs, fun k => ?_, fun id _ _ => ⟨rfl, openUpload_mirrored⟩,
      .mirrored opening ho hos ⟨hobject.trans hm.1, hoptions.trans hm.2⟩ fun hopen => ?_⟩
    · cases hclosed : m.closed with
      | true => simp [Channel.isClosed, hclosed]
      | false => simp [decides_of_mirrored opening ho hos hm.2 hclosed (hf hclosed).2, hop]
    · have hopen : m.closed = false := hclosed'.symm.trans hopen
      obtain ⟨hfor, hbytes⟩ := hfile os hopen (hf hopen).1
      refine ⟨hfor, ?_⟩
      rw [Life.file_use, hbytes, (hf hopen).2]

/-- What closing settles, if it goes well, is what is decided. -/
theorem Used.closing (hu : V.NamesUploads sound) (hs : sound st) {m m' : Mirrored} {M M' : Mirrors}
    (hfits : Fits V limits (V.holds st) l (.mirrored m)) (hop : op.isClosing = true)
    {r : Except Failure Unit} (hmove : Mirrored.CloseMove limits names m M es r m' M')
    (hr : service.backend.Runs st es st') :
    Used V limits sound st l op (.mirrored m) (do r; return .none) (.mirrored m') st' := by
  obtain ⟨reply, rfl⟩ := hmove.channel
  cases hfits with
  | @mirrored _ _ _ o os _ opening ho hos hm hf =>
    have hdecision : (if (do r; return Answer.none : Except Failure Answer).isOk &&
        !(Channel.mirrored m).isClosed then l.decides service V limits.platform op else none) =
          if r.isOk then m.settles.map fun x => (o, x) else none := by
      cases r with
      | error e => rfl
      | ok u =>
        cases hclosed : m.closed with
        | true => simp [Channel.isClosed, hclosed, Mirrored.settles]
        | false =>
          simp only [decides_of_mirrored opening ho hos hm.2 hclosed (hf hclosed).2, hop,
            Channel.isClosed, hclosed]
          rfl
    have hfits' : Fits V limits (V.holds st') { l with uses := l.uses ++ [(op, do r; return .none)] }
        (.mirrored { m with closed := true, putResult := reply }) :=
      .mirrored opening ho hos hm fun hclosed => by cases hclosed
    obtain ⟨x, rfl, hsettles, hholds⟩ | ⟨hsettles, hholds⟩ := hmove.settled V hr
    · refine ⟨hu.sound_of_runs hr hs, fun k => ?_, fun id _ _ => ?_, hfits'⟩
      · rw [hdecision, hsettles, hholds, Holdings.bytes_setObject, hm.1]
        rfl
      · rw [hholds]
        exact ⟨rfl, openUpload_mirrored⟩
    · refine ⟨hu.sound_of_runs hr hs, fun k => ?_, fun id _ _ => ?_, hfits'⟩
      · rw [hdecision, hholds]
        cases r with
        | error e => rfl
        | ok u =>
          rw [hsettles rfl]
          rfl
      · rw [hholds]
        exact ⟨rfl, openUpload_mirrored⟩

end

/-! ### All channels -/

/-- **Every use of a channel leaves what it has to.** -/
theorem used_perform (hu : V.NamesUploads sound) (hf : service.backend.FailsOrdinarily)
    {W : World σ} (hs : sound W.store) {l : Life σ} {c : Channel}
    (hfits : Fits V limits (V.holds W.store) l c) (op : Operation) :
    let x := Channel.perform (settingOf service limits names) op (c, W)
    Used V limits sound W.store l op c x.1 x.2.1 x.2.2.store := by
  let e := settingOf service limits names
  cases c with
  | writer w =>
    rcases hp : Channel.performWriter e op (w, W) with ⟨r, w', W'⟩
    obtain ⟨es, m, hr⟩ : ∃ es, w.Move limits op es r w' ∧
        service.backend.Runs W.store es W'.store := Writer.performWriter_move _ op hp
    simp only [Channel.perform, Channel.lift, e, hp]
    cases hclosed : w.closed with
    | true => exact .closedWriter hs hfits hclosed m hr
    | false => exact .openWriter hu hf hs hfits hclosed m hr
  | reader x =>
    have hlook := Reader.performReader_onlyLooks e op (x, W)
    exact .reader hu hs hfits hlook
  | mirrored m =>
    cases hop : op.isClosing with
    | false =>
      have hfile (os : OpenOptions) (hclosed : m.closed = false) (hfor : m.file.IsFor os) :=
        Mirrored.performMirrored_file e hop (W := W) hclosed hfor
      have hretouched := Mirrored.performMirrored_retouched (b := e) hop (m, W)
      rcases hp : Channel.performMirrored e op (m, W) with ⟨r, m', W'⟩
      rw [hp] at hretouched hfile
      obtain ⟨f, t, M, hm⟩ := hretouched
      obtain ⟨rfl, rfl⟩ := Prod.mk.inj hm
      simp only [Channel.perform, Channel.lift, e, hp]
      exact .mirror hs hfits hop ⟨rfl, rfl, rfl⟩ hfile
    | true =>
      obtain ⟨es, r₀, hmove, hr₀, hr⟩ := Mirrored.performMirrored_close e hop (m, W)
      rcases hp : Channel.performMirrored e op (m, W) with ⟨r, m', W'⟩
      rw [hp] at hmove hr₀ hr
      obtain rfl : r = _ := hr₀
      simp only [Channel.perform, Channel.lift, e, hp]
      exact .closing hu hs hfits hop hmove hr

theorem use_of_channel (e : Channel.Setting σ τ) {name : String} {c : Channel} (op : Operation)
    (hc : s.channels.get? name = some c) :
    use e name op s = ((Channel.perform e op (c, s.world)).1,
      { channels := s.channels.insert name (Channel.perform e op (c, s.world)).2.1
        world := (Channel.perform e op (c, s.world)).2.2 }) := by
  simp only [use, hc]

/-- A use that leaves what it has to keeps the invariant. -/
theorem Kept.used (hk : Kept V limits sound initial (past, s)) {name : String} {op : Operation}
    {c c' : Channel} {l : Life σ} {r : Except Failure Answer} {W : World σ}
    (hc : s.channels.get? name = some c) (hl : life? name past = some l)
    (h : Used V limits sound s.world.store l op c r c' W.store) :
    Kept V limits sound initial (⟨.use name op, s, r⟩ :: past,
      { channels := s.channels.insert name c', world := W }) := by
  have hopen : (s.channels.get? name).any (!·.isClosed) = !c.isClosed := by rw [hc]; rfl
  have hdecision : (⟨.use name op, s, r⟩ : Step σ).decision? service V limits.platform past =
      if r.isOk && !c.isClosed then l.decides service V limits.platform op else none := by
    simp only [Step.decision?, hopen, hl, Option.bind_some]
    cases r.isOk <;> simp
  -- the uploads of the other channels are in the store, and are not this channel's
  have hapart {name' : String} {c'' : Channel} {id : String} (hn : name' ≠ name)
      (hc'' : s.channels.get? name' = some c'') (hid : openUpload c'' = some id) :
      (V.holds s.world.store).upload id ≠ none ∧ openUpload c ≠ some id := by
    obtain ⟨l', -, hfits'⟩ := hk.life name' c'' hc''
    exact ⟨hfits'.known hid, hk.apart name' name c'' c id hn hc'' hc hid⟩
  have hname {name' : String} (h : (Command.use name op).channel? ≠ some name') : name' ≠ name :=
    fun h' => h (by rw [h']; rfl)
  refine hk.next h.sound (fun o => ?_) (fun name' hn => ?_) (fun name' c'' id hn hc'' hid => ?_)
    fun name' c'' hn hc'' => ?_
  · rw [decided, hdecision, ← hk.content o]
    exact h.content o
  · exact Table.get?_insert_other _ _ (hname hn)
  · obtain ⟨hknown, hne⟩ := hapart (hname hn) hc'' hid
    exact (h.uploads id hknown hne).1
  · obtain rfl : name = name' := Option.some.inj hn
    obtain rfl : c' = c'' := by simpa using hc''
    refine ⟨⟨_, ?_, h.fits⟩, fun id hid name' c'' hn hc'' hid' => ?_⟩
    · rw [life?_use op rfl, hl]
      rfl
    · obtain ⟨hknown, hne⟩ := hapart hn hc'' hid'
      exact (h.uploads id hknown hne).2 hid

/-! ## Steps and runs -/

/-- **Every step keeps the invariant.** -/
theorem Kept.step (hk : Kept V limits sound initial (past, s)) (hu : V.NamesUploads sound)
    (hg : V.GivesAll honest) (hf : service.backend.FailsOrdinarily) (c : Command) :
    Kept V limits sound initial (told service limits names past s c) := by
  cases c with
  | openWriter name key contentType metadata => exact hk.openWriter hu name key contentType metadata
  | openReader name key position => exact hk.openReader hu name key position
  | openChannel name key q => exact hk.openChannel hu hg name key q
  | objectExists key => exact hk.objectExists hu key
  | delete key => exact hk.delete hu key
  | objectId key =>
    have hstate : (perform service limits names (.objectId key) s).2 = s := by
      cases ho : service.objectId key with
      | error e => simp only [perform, Action.bind_apply, Action.ofExcept_apply, ho]
      | ok o =>
        simp only [perform, Action.bind_apply, Action.ofExcept_apply, ho]
        rfl
    refine hk.idle ?_ ?_ ?_ (by simp [Step.decision?]) fun name => ⟨by simp [Step.opens], rfl⟩
    · rw [hstate]
      exact hk.sound
    · rw [hstate]
    · rw [hstate]
  | exposeMetrics =>
    obtain ⟨_, _, hleaves⟩ := exposeMetrics_leaves service s.world
    have hstore : (service.exposeMetrics s.world).2.store = s.world.store := by rw [hleaves]
    have hstate : (perform service limits names .exposeMetrics s).2 =
        { s with world := (service.exposeMetrics s.world).2 } :=
      Action.map_state (onWorld service.exposeMetrics) Answer.flag s
    refine hk.idle ?_ ?_ ?_ (by simp [Step.decision?]) fun name => ⟨by simp [Step.opens], rfl⟩
    · rw [hstate]
      show sound (service.exposeMetrics s.world).2.store
      rw [hstore]
      exact hk.sound
    · rw [hstate]
      exact congrArg V.holds hstore
    · rw [hstate]
  | bucket | backend => exact hk.idle hk.sound rfl rfl rfl fun name => ⟨rfl, rfl⟩
  | use name op =>
    cases hc : s.channels.get? name with
    | some c =>
      have hperform : perform service limits names (.use name op) s =
          use (settingOf service limits names) name op s := rfl
      obtain ⟨l, hl, hfits⟩ := hk.life name c hc
      rw [told, hperform, use_of_channel _ op hc]
      exact hk.used hc hl (used_perform hu hf hk.sound hfits op)
    | none =>
      have hperform : perform service limits names (.use name op) s = (.error .noChannel, s) := by
        show use (settingOf service limits names) name op s = _
        simp only [use, hc]
      rw [told, hperform]
      refine hk.next hk.sound (fun o => hk.content o) (fun _ _ => rfl) (fun _ _ _ _ _ _ => rfl)
        fun name' c hn hc' => ?_
      obtain rfl : name = name' := Option.some.inj hn
      rw [hc] at hc'
      cases hc'

theorem Kept.run (hu : V.NamesUploads sound) (hg : V.GivesAll honest)
    (hf : service.backend.FailsOrdinarily) (cs : List Command) {p : Told σ}
    (hk : Kept V limits sound initial p) :
    Kept V limits sound initial (run service limits names cs p) := by
  induction cs generalizing p with
  | nil => exact hk
  | cons c cs ih => exact ih (hk.step hu hg hf c)

/-- What holds after a history that began with the given world, whatever channels were at work:

* the store holds what was decided last about an object, or what it held at first;
* a successful answer about the existence of an object tells just that;
* an upload of an open writer has the blocks of that writer alone, which with what is pending are all
  that the writer has accepted;
* and no two open writers have the same upload. -/
structure Interleaved (V : service.backend.View) (limits : Limits) (names : ContentType.NameTypes)
    (W : World σ) (p : Told σ) : Prop where
  content : ∀ o, (V.holds p.2.world.store).bytes o =
    decided service V limits.platform o ((V.holds W.store).bytes o) p.1
  there : ∀ {key o there}, service.objectId key = .ok o →
    (perform service limits names (.objectExists key) p.2).1 = .ok (.flag there) →
    there = (decided service V limits.platform o ((V.holds W.store).bytes o) p.1).isSome
  parts : ∀ {name w id}, p.2.channels.get? name = some (.writer w) → w.closed = false →
    w.uploadId = some id → ∃ l blocks, life? name p.1 = some l ∧
      (V.holds p.2.world.store).upload id = some ⟨V.keep w.info, blockAt blocks⟩ ∧
      Bytes.concat blocks ++ w.pending.toBytes = l.accepted
  apart : ∀ {name name' w w' id}, name ≠ name' → p.2.channels.get? name = some (.writer w) →
    p.2.channels.get? name' = some (.writer w') → w.closed = false → w'.closed = false →
    w.uploadId = some id → w'.uploadId ≠ some id

theorem Kept.interleaved {W : World σ} {p : Told σ}
    (hk : Kept V limits sound (V.holds W.store).bytes p) : Interleaved V limits names W p := by
  refine ⟨hk.content, fun ho h => ?_, fun {name w id} hw hopen hid => ?_, ?_⟩
  · rw [← hk.content]
    exact there_of_objectExists V ho h
  · obtain ⟨l, hl, hfits⟩ := hk.life name _ hw
    cases hfits with
    | writer _ _ _ hd =>
      obtain ⟨sent, hdep, hdata⟩ := (hd hopen).deposit
      cases hdep with
      | nothing hid' => simp [hid] at hid'
      | upload hid' _ _ hu =>
        obtain rfl := Option.some.inj (hid.symm.trans hid')
        exact ⟨l, _, hl, hu, hdata.symm⟩
  · intro name name' w w' id hne hw hw' hopen hopen' hid hid'
    exact hk.apart name name' _ _ id hne hw hw' (openUpload_writer.mpr ⟨hopen, hid⟩)
      (openUpload_writer.mpr ⟨hopen', hid'⟩)

/-- **The last decision wins, and nothing else changes**, at every moment of every interleaving. -/
theorem last_decision_wins (service : Service σ τ) (limits : Limits) (names : ContentType.NameTypes)
    (V : service.backend.View) {sound : σ → Prop} {honest : τ → Prop} (hu : V.NamesUploads sound)
    (hg : V.GivesAll honest) (hf : service.backend.FailsOrdinarily) (W : World σ)
    (hs : sound W.store) (cs : List Command) :
    Interleaved V limits names W (run service limits names cs ([], { world := W })) := by
  have hnone (name : String) (c : Channel) :
      ¬({ world := W } : Session σ).channels.get? name = some c := by
    simp
  have hstart : Kept V limits sound (V.holds W.store).bytes ([], { world := W }) :=
    ⟨hs, fun _ => rfl, fun name c hc => (hnone name c hc).elim,
      fun name _ c _ _ _ hc => (hnone name c hc).elim⟩
  exact (Kept.run hu hg hf cs hstart).interleaved

/-- The third part that is sent is refused. -/
def thirdRefused : Store.Plan Store.Method Unit :=
  .ofRules [⟨.uploadPart, some 3, .raise (.storage "refused" none)⟩]

theorem thirdRefused_ordinary (m : Store.Method) (n : Nat) (e : Failure)
    (h : thirdRefused m n = some (.raise e)) : e.isInterrupt = false := by
  have hrule : (e = .storage "refused" none) := by
    simp only [thirdRefused, Store.Plan.ofRules, List.find?_cons, List.find?_nil] at h
    split at h
    · cases h
      rfl
    · cases h
  rw [hrule]
  rfl

def refusingService : Service Store.MemoryStore Store.Stream where
  settings := {}
  bucket := "bucket"
  backend := Store.memoryBackend thirdRefused fun _ => {}

def refusingView : refusingService.backend.View := Store.memoryView thirdRefused fun _ => {}

/-- Three writers for one key with uploads at the same time, and a mirrored channel that was opened
before there was an object. -/
def threeWriters : List Command :=
  [.openChannel "m" "key" { options := some [.option .write, .option .create] },
    .openWriter "a" "key" none .empty, .openWriter "b" "key" none .empty,
    .openWriter "c" "key" none .empty,
    .use "a" (.write (some ⟨#[1, 1]⟩)), .use "b" (.write (some ⟨#[2, 2]⟩)),
    .use "c" (.write (some ⟨#[3, 3]⟩)), .use "b" (.write (some ⟨#[2]⟩)),
    .use "a" .close, .use "b" .close, .use "c" .close, .use "m" (.write (some ⟨#[9]⟩))]

def afterCommands (cs : List Command) : Told Store.MemoryStore :=
  run refusingService { minPartSize := 2 } ContentType.ofName cs ([], { world := { store := {} } })

theorem last_decision_wins_of_three_writers :
    (refusingView.holds (afterCommands threeWriters).2.world.store).bytes ⟨"bucket", "key"⟩ =
        some ⟨#[2, 2, 2]⟩ ∧
      (refusingView.holds (afterCommands (threeWriters ++ [.use "m" .close])).2.world.store).bytes
        ⟨"bucket", "key"⟩ = some ⟨#[9]⟩ ∧
      (refusingView.holds (afterCommands (threeWriters ++ [.delete "key"])).2.world.store).bytes
        ⟨"bucket", "key"⟩ = none := by
  have hu : refusingView.NamesUploads fun s => s.contents.NamesFree :=
    Store.memoryView_namesUploads _ _
  have hg : refusingView.GivesAll fun t => t.habit.chunk ≠ some 0 :=
    Store.memoryView_givesAll _ _ fun _ h => by cases h
  have hf : refusingService.backend.FailsOrdinarily :=
    Store.memoryBackend_failsOrdinarily _ thirdRefused_ordinary
  have hs : Store.Contents.NamesFree {} := fun _ _ => rfl
  have h (cs : List Command) : Interleaved refusingView { minPartSize := 2 } ContentType.ofName
      { store := {} } (afterCommands cs) :=
    last_decision_wins refusingService _ _ refusingView hu hg hf { store := {} } hs cs
  refine ⟨((h threeWriters).content _).trans ?_, ((h (threeWriters ++ _)).content _).trans ?_,
    ((h (threeWriters ++ _)).content _).trans ?_⟩ <;> decide +kernel

end ObjectChannel.Session
