/-
Several mirrored channels over one world. They are opened, used and closed in any order, their requests
and streams may fail in any way, interrupts included, and the rest of the world goes on meanwhile.

The mirror files that are present are then those of the channels that are open, one for each
(`mirrors_of_open_channels`). Opening adds the file of the channel that it makes, and none where it
fails; closing takes the channel's own file away, whatever else came of it.
-/
import ObjectChannel.Proofs.Mirrored.Effect

namespace ObjectChannel

/-! ## Mirror files -/

namespace Mirrors

variable {M : Mirrors}

/-- Every mirror file was numbered before the next one. -/
def IsCounted (M : Mirrors) : Prop := ∀ m ∈ M.present, m.number < M.next

theorem IsCounted.fresh_not_mem (h : M.IsCounted) (directory : Option String) :
    M.fresh directory ∉ M.present := by
  intro hm
  have hlt : M.next < M.next := h _ hm
  exact absurd hlt (Nat.lt_irrefl _)

theorem present_remove_of_not_mem {m : Mirror} (h : m ∉ M.present) :
    (M.remove m).present = M.present := by
  refine List.filter_eq_self.mpr fun k hk => ?_
  have hne : k ≠ m := fun hkm => h (hkm ▸ hk)
  simpa using hne

/-- A new mirror file that is taken away again leaves those that were there before. -/
theorem present_remove_fresh (h : M.IsCounted) (directory : Option String) :
    ((M.create directory).remove (M.fresh directory)).present = M.present := by
  have hold := present_remove_of_not_mem (h.fresh_not_mem directory)
  simp only [remove] at hold
  simp [create, remove, List.filter_append, hold]

end Mirrors

namespace Mirrored

variable {σ τ : Type} {b : Backend σ τ} {limits : Limits} {names : ContentType.NameTypes}
  {M M' : Mirrors}

/-- Opening makes the mirror file of the channel, or leaves the mirror files that there were. -/
theorem OpenMove.mirrors {o : ObjectId} {q : OpenRequest} {es : List (Exchange τ)}
    {r : Except Failure Mirrored} (h : OpenMove b limits o q M es r M') (hM : M.IsCounted) :
    match r with
    | .ok c => c.closed = false ∧ c.mirror = M.fresh q.directory ∧ M' = M.create q.directory
    | .error _ => M'.present = M.present ∧ M.next ≤ M'.next := by
  cases h with
  | badOptions | unfit | noDirectory => exact ⟨rfl, Nat.le_refl _⟩
  | made | fetched => exact ⟨rfl, rfl, rfl⟩
  | notFetched =>
    have hnext : M.next ≤ M.next + 1 := Nat.le_succ _
    exact ⟨Mirrors.present_remove_fresh hM q.directory, hnext⟩

/-- Closing takes away the channel's own mirror file. It is gone already where the channel was closed
before. -/
theorem CloseMove.mirrors {c c' : Mirrored} {es : List (Exchange τ)} {r : Except Failure Unit}
    (h : CloseMove limits names c M es r c' M') (hM : c.closed = true → c.mirror ∉ M.present) :
    M'.present = M.present.filter (· != c.mirror) ∧ M'.next = M.next := by
  cases h with
  | again hc => exact ⟨(Mirrors.present_remove_of_not_mem (hM hc)).symm, rfl⟩
  | deleted | unchanged | synced => exact ⟨rfl, rfl⟩

/-- The mirror files of the channels that are open, in the order of the channels. -/
def openMirrors (cs : List Mirrored) : List Mirror := (cs.filter (!·.closed)).map (·.mirror)

theorem openMirrors_cons (c : Mirrored) (cs : List Mirrored) :
    openMirrors (c :: cs) = if c.closed then openMirrors cs else c.mirror :: openMirrors cs := by
  cases hc : c.closed <;> simp [openMirrors, hc]

theorem openMirrors_concat {c : Mirrored} (hc : c.closed = false) (cs : List Mirrored) :
    openMirrors (cs ++ [c]) = openMirrors cs ++ [c.mirror] := by
  simp [openMirrors, hc]

/-- Every open mirror file is that of a channel. -/
theorem mem_openMirrors {cs : List Mirrored} {m : Mirror} :
    m ∈ openMirrors cs ↔ ∃ c ∈ cs, c.closed = false ∧ c.mirror = m := by
  simp [openMirrors, and_assoc]

/-- The mirror files of different channels have different numbers. -/
def HaveOwnMirrors (cs : List Mirrored) : Prop := (cs.map (·.mirror.number)).Nodup

theorem HaveOwnMirrors.tail {c : Mirrored} {cs : List Mirrored} (h : HaveOwnMirrors (c :: cs)) :
    HaveOwnMirrors cs := (List.nodup_cons.mp h).2

theorem HaveOwnMirrors.ne_head {c d : Mirrored} {cs : List Mirrored}
    (h : HaveOwnMirrors (c :: cs)) (hd : d ∈ cs) : d.mirror ≠ c.mirror := by
  intro heq
  have hnot : c.mirror.number ∉ cs.map (·.mirror.number) := (List.nodup_cons.mp h).1
  exact hnot (List.mem_map.mpr ⟨d, hd, by rw [heq]⟩)

section

variable {c c' : Mirrored}

/-- Nothing changes as long as the channel stays open, or stays closed. -/
theorem openMirrors_set {cs : List Mirrored} {i : Nat} (hi : cs[i]? = some c)
    (hm : c'.mirror = c.mirror) (hc : c'.closed = c.closed) :
    openMirrors (cs.set i c') = openMirrors cs := by
  induction cs generalizing i with
  | nil => cases hi
  | cons d cs ih =>
    cases i with
    | zero =>
      obtain rfl : d = c := by simpa using hi
      rw [List.set_cons_zero, openMirrors_cons, openMirrors_cons, hm, hc]
    | succ i =>
      have hi : cs[i]? = some c := by simpa using hi
      rw [List.set_cons_succ, openMirrors_cons, openMirrors_cons, ih hi]

/-- Where a channel is closed, its own mirror file goes. -/
theorem openMirrors_set_closed {cs : List Mirrored} {i : Nat} (hi : cs[i]? = some c)
    (hc : c'.closed = true) (hown : HaveOwnMirrors cs) :
    openMirrors (cs.set i c') = (openMirrors cs).filter (· != c.mirror) := by
  induction cs generalizing i with
  | nil => cases hi
  | cons d cs ih =>
    cases i with
    | zero =>
      obtain rfl : d = c := by simpa using hi
      have hothers : (openMirrors cs).filter (· != d.mirror) = openMirrors cs := by
        refine List.filter_eq_self.mpr fun m hm => ?_
        obtain ⟨k, hk, -, rfl⟩ := mem_openMirrors.mp hm
        simpa using hown.ne_head hk
      rw [List.set_cons_zero, openMirrors_cons, openMirrors_cons, if_pos hc]
      cases hd : d.closed with
      | true => simp [hothers]
      | false => simp [hothers]
    | succ i =>
      have hi : cs[i]? = some c := by simpa using hi
      have hne : c.mirror ≠ d.mirror := hown.ne_head (List.mem_of_getElem? hi)
      rw [List.set_cons_succ, openMirrors_cons, openMirrors_cons, ih hi hown.tail]
      cases hd : d.closed with
      | true => simp
      | false => simp [Ne.symm hne]

/-- A channel in the place of one with the same mirror file. -/
theorem map_mirror_set {cs : List Mirrored} {i : Nat} (hi : cs[i]? = some c)
    (hm : c'.mirror = c.mirror) : (cs.set i c').map (·.mirror) = cs.map (·.mirror) := by
  obtain ⟨hlt, rfl⟩ := List.getElem?_eq_some_iff.mp hi
  rw [List.map_set, hm]
  refine List.ext_getElem? fun k => ?_
  by_cases hk : i = k
  · subst hk
    simp [hlt]
  · rw [List.getElem?_set_ne hk]

end

end Mirrored

/-! ## Many channels -/

/-- Mirrored channels in the order in which they were opened, over one world. -/
structure Fleet (σ : Type) where
  channels : List Mirrored := []
  world : World σ

namespace Fleet

variable {σ τ : Type}

/-- Every command comes with the setting that it is carried out in. -/
inductive Command (σ τ : Type) where
  | openChannel (e : Channel.Setting σ τ) (o : ObjectId) (q : OpenRequest)
  /-- An operation on the channel that was opened as the `i`-th one, counted from zero. -/
  | use (e : Channel.Setting σ τ) (i : Nat) (op : Operation)
  /-- The world changes otherwise: the store, the directories, the counters, the log. The mirror files
  that are present stay. -/
  | elsewhere (f : World σ → World σ)

def perform : Command σ τ → Action (Fleet σ) Answer
  | .openChannel e o q => fun s =>
    match Mirrored.open e.backend e.limits o q s.world with
    | (.ok c, W) => (.ok .none, { channels := s.channels ++ [c], world := W })
    | (.error f, W) => (.error f, { s with world := W })
  | .use e i op => fun s =>
    match s.channels[i]? with
    | none => (.error .noChannel, s)
    | some c =>
      match Channel.performMirrored e op (c, s.world) with
      | (r, (c, W)) => (r, { channels := s.channels.set i c, world := W })
  | .elsewhere f => fun s =>
    let W := f s.world
    (.ok .none, { s with world := { W with mirrors := { W.mirrors with
      present := s.world.mirrors.present
      next := s.world.mirrors.next } } })

/-- Carries out commands one after the other, whatever comes of them. -/
def run (cs : List (Command σ τ)) (s : Fleet σ) : Fleet σ :=
  cs.foldl (fun s c => (perform c s).2) s

/-- No mirror file is taken away behind a channel's back. -/
def Command.sparesMirror : Command σ τ → Bool
  | .use _ _ op => op.sparesMirror
  | _ => true

/-- The mirror files that are present are those of the open channels, and no two channels have the
same. -/
structure Tidy (s : Fleet σ) : Prop where
  present : s.world.mirrors.present = Mirrored.openMirrors s.channels
  own : Mirrored.HaveOwnMirrors s.channels
  counted : ∀ c ∈ s.channels, c.mirror.number < s.world.mirrors.next

variable {s : Fleet σ}

theorem Tidy.isCounted (h : s.Tidy) : s.world.mirrors.IsCounted := by
  intro m hm
  rw [h.present] at hm
  obtain ⟨c, hc, -, rfl⟩ := Mirrored.mem_openMirrors.mp hm
  exact h.counted c hc

/-- The mirror file of a closed channel is gone. -/
theorem Tidy.gone (h : s.Tidy) {i : Nat} {c : Mirrored} (hi : s.channels[i]? = some c)
    (hc : c.closed = true) : c.mirror ∉ s.world.mirrors.present := by
  have hsame : s.channels.set i c = s.channels := by
    obtain ⟨hlt, rfl⟩ := List.getElem?_eq_some_iff.mp hi
    exact List.set_getElem_self hlt
  have hfilter := Mirrored.openMirrors_set_closed hi hc h.own
  rw [hsame] at hfilter
  rw [h.present, hfilter]
  simp

/-! ### What one command does -/

theorem use_apply (e : Channel.Setting σ τ) {i : Nat} {c : Mirrored}
    (hi : s.channels[i]? = some c) (op : Operation) :
    perform (.use e i op) s = ((Channel.performMirrored e op (c, s.world)).1,
      { channels := s.channels.set i (Channel.performMirrored e op (c, s.world)).2.1
        world := (Channel.performMirrored e op (c, s.world)).2.2 }) := by
  simp only [perform, hi]

/-- An opening that fails leaves the channels and the mirror files as they were. -/
theorem Tidy.failed_opening (h : s.Tidy) (e : Channel.Setting σ τ) (o : ObjectId) (q : OpenRequest)
    {f : Failure} (hf : (perform (.openChannel e o q) s).1 = .error f) :
    (perform (.openChannel e o q) s).2.channels = s.channels ∧
      (perform (.openChannel e o q) s).2.world.mirrors.present = s.world.mirrors.present := by
  rcases hopen : Mirrored.open e.backend e.limits o q s.world with ⟨r, W⟩
  obtain ⟨es, hmove, -⟩ := Mirrored.open_move hopen
  have hmirrors := hmove.mirrors h.isCounted
  cases r with
  | ok c => simp [perform, hopen] at hf
  | error f =>
    have hperform : perform (.openChannel e o q) s = (.error f, { s with world := W }) := by
      simp only [perform, hopen]
    rw [hperform]
    exact ⟨rfl, hmirrors.1⟩

theorem Tidy.openChannel (h : s.Tidy) (e : Channel.Setting σ τ) (o : ObjectId) (q : OpenRequest) :
    (perform (.openChannel e o q) s).2.Tidy := by
  rcases hopen : Mirrored.open e.backend e.limits o q s.world with ⟨r, W⟩
  obtain ⟨es, hmove, -⟩ := Mirrored.open_move hopen
  have hmirrors := hmove.mirrors h.isCounted
  simp only [perform, hopen]
  cases r with
  | error f =>
    obtain ⟨hpresent, hnext⟩ := hmirrors
    exact ⟨hpresent.trans h.present, h.own, fun c hc => Nat.lt_of_lt_of_le (h.counted c hc) hnext⟩
  | ok c =>
    obtain ⟨hc, hmirror, hM⟩ := hmirrors
    have hnumber : c.mirror.number = s.world.mirrors.next := by rw [hmirror]; rfl
    have hnext : W.mirrors.next = s.world.mirrors.next + 1 := by rw [hM]; rfl
    refine ⟨?_, ?_, fun d hd => ?_⟩
    · have hpresent : W.mirrors.present = s.world.mirrors.present ++ [c.mirror] := by
        rw [hM, hmirror]
        rfl
      rw [hpresent, h.present, Mirrored.openMirrors_concat hc]
    · -- the new number is above all others
      have hnew : s.world.mirrors.next ∉ s.channels.map (·.mirror.number) := by
        intro hmem
        obtain ⟨d, hd, hdn⟩ := List.mem_map.mp hmem
        have hlt := h.counted d hd
        omega
      show ((s.channels ++ [c]).map (·.mirror.number)).Nodup
      rw [List.map_append, List.nodup_append]
      refine ⟨h.own, by simp, fun n hn k hk => ?_⟩
      have hk : k = s.world.mirrors.next := by simpa [hnumber] using hk
      intro heq
      exact hnew (hk ▸ heq ▸ hn)
    · show d.mirror.number < W.mirrors.next
      rcases List.mem_append.mp hd with hd | hd
      · have hlt := h.counted d hd
        omega
      · obtain rfl : d = c := by simpa using hd
        omega

/-- The mirror files go with the channels where one of these is replaced by itself later on. -/
theorem Tidy.set (h : s.Tidy) {i : Nat} {c c' : Mirrored} {W : World σ}
    (hi : s.channels[i]? = some c) (hm : c'.mirror = c.mirror)
    (hpresent : W.mirrors.present = Mirrored.openMirrors (s.channels.set i c'))
    (hnext : W.mirrors.next = s.world.mirrors.next) :
    ({ channels := s.channels.set i c', world := W } : Fleet σ).Tidy := by
  have hmirrors := Mirrored.map_mirror_set hi hm
  refine ⟨hpresent, ?_, fun d hd => ?_⟩
  · show ((s.channels.set i c').map (·.mirror.number)).Nodup
    have hnumbers : (s.channels.set i c').map (·.mirror.number) =
        s.channels.map (·.mirror.number) := by
      have hmap := congrArg (List.map (·.number)) hmirrors
      rwa [List.map_map, List.map_map] at hmap
    rw [hnumbers]
    exact h.own
  · have hd : d.mirror ∈ s.channels.map (·.mirror) := hmirrors ▸ List.mem_map_of_mem hd
    obtain ⟨k, hk, hkd⟩ := List.mem_map.mp hd
    show d.mirror.number < W.mirrors.next
    rw [hnext, ← hkd]
    exact h.counted k hk

/-- Closing, whatever comes of it, takes away the channel's own mirror file and leaves the channel
closed. -/
theorem Tidy.closing (h : s.Tidy) (e : Channel.Setting σ τ) {i : Nat} {c : Mirrored}
    (hi : s.channels[i]? = some c) {op : Operation} (hop : op.isClosing = true) :
    (perform (.use e i op) s).2.Tidy ∧
      (perform (.use e i op) s).2.world.mirrors.present =
        s.world.mirrors.present.filter (· != c.mirror) ∧
      ∃ c', (perform (.use e i op) s).2.channels = s.channels.set i c' ∧ c'.closed = true := by
  rw [use_apply e hi]
  obtain ⟨es, r, hmove, -, -⟩ := Mirrored.performMirrored_close e hop (c, s.world)
  obtain ⟨hpresent, hnext⟩ := hmove.mirrors fun hc => h.gone hi hc
  obtain ⟨reply, hchannel⟩ := hmove.channel
  have hclosed : (Channel.performMirrored e op (c, s.world)).2.1.closed = true := by rw [hchannel]
  have hmirror : (Channel.performMirrored e op (c, s.world)).2.1.mirror = c.mirror := by
    rw [hchannel]
  refine ⟨h.set hi hmirror ?_ hnext, hpresent, _, rfl, hclosed⟩
  rw [Mirrored.openMirrors_set_closed hi hclosed h.own, ← h.present]
  exact hpresent

theorem Tidy.use (h : s.Tidy) (e : Channel.Setting σ τ) (i : Nat) {op : Operation}
    (hspares : op.sparesMirror = true) : (perform (.use e i op) s).2.Tidy := by
  cases hi : s.channels[i]? with
  | none =>
    simp only [perform, hi]
    exact h
  | some c =>
    cases hop : op.isClosing with
    | true => exact (h.closing e hi hop).1
    | false =>
      obtain ⟨l, t, htouched⟩ := Mirrored.performMirrored_touched (b := e) hop hspares (c, s.world)
      rw [use_apply e hi, htouched]
      refine h.set hi rfl ?_ rfl
      refine h.present.trans (Eq.symm ?_)
      exact Mirrored.openMirrors_set hi rfl rfl

theorem Tidy.perform (h : s.Tidy) {c : Command σ τ} (hc : c.sparesMirror = true) :
    (Fleet.perform c s).2.Tidy := by
  cases c with
  | openChannel e o q => exact h.openChannel e o q
  | use e i op => exact h.use e i hc
  | elsewhere f => exact ⟨h.present, h.own, h.counted⟩

/-! ### Runs -/

theorem Tidy.run (h : s.Tidy) {cs : List (Command σ τ)} (hcs : ∀ c ∈ cs, c.sparesMirror = true) :
    (Fleet.run cs s).Tidy := by
  induction cs generalizing s with
  | nil => exact h
  | cons c cs ih =>
    have hc : c.sparesMirror = true := hcs c (.head _)
    exact ih (h.perform hc) fun d hd => hcs d (.tail _ hd)

/-- **Mirror files go with the channels that they belong to.** After any commands, whatever came of
them, those that are present are the files of the open channels, and no two channels have the same. An
opening that fails leaves none behind. Closing takes the channel's own away and leaves the channel
closed, also where it fails, and closing once more does nothing. -/
theorem mirrors_of_open_channels (cs : List (Command σ τ))
    (hcs : ∀ c ∈ cs, c.sparesMirror = true) (W : World σ) (hW : W.mirrors.present = []) :
    let s := run cs { world := W }
    s.world.mirrors.present = Mirrored.openMirrors s.channels ∧
    Mirrored.HaveOwnMirrors s.channels ∧
    (∀ (e : Channel.Setting σ τ) o q f, (perform (.openChannel e o q) s).1 = .error f →
      (perform (.openChannel e o q) s).2.channels = s.channels ∧
        (perform (.openChannel e o q) s).2.world.mirrors.present = s.world.mirrors.present) ∧
    ∀ (e : Channel.Setting σ τ) i c op, s.channels[i]? = some c → op.isClosing = true →
      let s' := (perform (.use e i op) s).2
      s'.world.mirrors.present = s.world.mirrors.present.filter (· != c.mirror) ∧
      (∃ c', s'.channels = s.channels.set i c' ∧ c'.closed = true) ∧
      ∀ (e' : Channel.Setting σ τ) op', op'.isClosing = true →
        perform (.use e' i op') s' = (.ok .none, s') := by
  intro s
  have hstart : ({ world := W } : Fleet σ).Tidy :=
    ⟨hW, List.nodup_nil, fun c hc => absurd hc List.not_mem_nil⟩
  have hs : s.Tidy := hstart.run hcs
  refine ⟨hs.present, hs.own, fun e o q f hf => hs.failed_opening e o q hf,
    fun e i c op hi hop => ?_⟩
  intro s'
  obtain ⟨-, hpresent, c', hchannels, hclosed⟩ := hs.closing e hi hop
  refine ⟨hpresent, ⟨c', hchannels, hclosed⟩, fun e' op' hop' => ?_⟩
  have hi' : s'.channels[i]? = some c' := by
    have hlt : i < s.channels.length := (List.getElem?_eq_some_iff.mp hi).1
    rw [show s'.channels = _ from hchannels]
    simp [hlt]
  rw [use_apply e' hi', Mirrored.performMirrored_of_closed e' hop' hclosed]
  have hset : s'.channels.set i c' = s'.channels := by
    rw [show s'.channels = _ from hchannels, List.set_set]
  rw [hset]

/-- A store in memory where fetching and storing an object is interrupted. -/
def interrupted : Channel.Setting Store.MemoryStore Store.Stream where
  backend := Store.memoryBackend
    (fun m _ => if m = .get ∨ m = .put then some (.raise .interrupted) else none) fun _ => {}

/-- A store with one object, and one directory for mirror files. -/
def oneDirectory : World Store.MemoryStore where
  store := { contents := ({} : Store.Contents).put ⟨"bucket", "key"⟩ { data := ⟨#[1, 2, 3]⟩ } }
  mirrors := { hasDirectory := (· == "mirrors") }

/-- Two channels for new objects, one for an object that cannot be fetched and one without a
directory; the first is closed, and its object cannot be stored. -/
def interruptedCommands : List (Command Store.MemoryStore Store.Stream) :=
  let create : OpenRequest := { options := some [.option .write, .option .create] }
  [.openChannel interrupted ⟨"bucket", "new"⟩ create,
    .openChannel interrupted ⟨"bucket", "key"⟩ {},
    .openChannel interrupted ⟨"bucket", "other"⟩ { create with directory := some "nowhere" },
    .openChannel interrupted ⟨"bucket", "other"⟩ { create with directory := some "mirrors" },
    .use interrupted 0 (.write (some ⟨#[7]⟩)), .use interrupted 0 .close]

theorem mirrors_of_interrupted_channels :
    (run interruptedCommands { world := oneDirectory }).world.mirrors.present =
        [⟨2, some "mirrors"⟩] ∧
      (run interruptedCommands { world := oneDirectory }).channels.map (·.closed) =
        [true, false] := by
  obtain ⟨hpresent, -⟩ := mirrors_of_open_channels interruptedCommands (by decide) oneDirectory rfl
  rw [hpresent]
  decide +kernel

end Fleet

end ObjectChannel
