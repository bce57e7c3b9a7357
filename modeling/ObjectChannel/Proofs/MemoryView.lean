/-
What a store in memory promises: all that a view asks for, under every plan of faults. Its streams
are whole where every read gives something, and no more than was asked for, and where they neither
break nor fail to close.
-/
import ObjectChannel.Proofs.View

namespace ObjectChannel.Store

/-! ## What contents hold -/

namespace Upload

private theorem lookup_cons_eq {k m : Int} {d : Bytes} {l : List (Int × Bytes)} :
    ((m, d) :: l).lookup k = if k = m then some d else l.lookup k := by
  by_cases h : k = m
  · subst h; simp
  · have hb : (k == m) = false := beq_false_of_ne h
    simp [List.lookup_cons, hb, h]

/-- A part is found under its number, and the others as before. -/
theorem part?_setPart (u : Upload) (n : Int) (data : Bytes) (k : Int) :
    (u.setPart n data).part? k = if k = n then some data else u.part? k := by
  show (u.parts.filter (·.1 != n) ++ [(n, data)]).lookup k =
    if k = n then some data else u.parts.lookup k
  induction u.parts with
  | nil => simp [lookup_cons_eq]
  | cons e l ih =>
    obtain ⟨m, d⟩ := e
    by_cases hm : m = n
    · subst hm
      by_cases hk : k = m
      · simpa [hk] using ih
      · simpa [lookup_cons_eq, hk] using ih
    · by_cases hk : k = m
      · subst hk; simp [hm]
      · simp [hm, lookup_cons_eq, hk, ih]

/-- The upload as channels see it. -/
def assembly (u : Upload) : Assembly where
  make data := { data, contentType := u.contentType, metadata := u.metadata }
  part := u.part?

theorem assembly_setPart (u : Upload) (n : Int) (data : Bytes) :
    (u.setPart n data).assembly = u.assembly.setPart n data := by
  have h : (u.setPart n data).part? = fun k => if k = n then some data else u.part? k :=
    funext (part?_setPart u n data)
  simp only [assembly, Assembly.setPart, h]
  rfl

end Upload

/-- The object that contents make of some bytes and of what is said about them. -/
def kept (info : ObjectInfo) (data : Bytes) : StoredObject :=
  { data, contentType := info.contentType, metadata := info.metadata }

namespace Contents

/-- The contents as channels see them. -/
def holdings (c : Contents) : Holdings where
  object := c.object?
  upload id := (c.uploads.get? id).map Upload.assembly

theorem holdings_put (c : Contents) (o : ObjectId) (x : StoredObject) :
    (c.put o x).holdings = c.holdings.setObject o (some x) := by
  have h : (c.put o x).object? = fun k => if k.path = o.path then some x else c.object? k := by
    funext k
    simp [object?, put, Table.get?_insert]
  simp only [holdings, h]
  rfl

theorem holdings_delete (c : Contents) (o : ObjectId) :
    (c.delete o).holdings = c.holdings.setObject o none := by
  have h : (c.delete o).object? = fun k => if k.path = o.path then none else c.object? k := by
    funext k
    simp [object?, delete, Table.get?_erase]
  simp only [holdings, h]
  rfl

theorem holdings_beginUpload (c : Contents) (o : ObjectId) (info : ObjectInfo) :
    (c.beginUpload o info.contentType info.metadata).holdings =
      c.holdings.setUpload c.nextUploadId ⟨kept info, fun _ => none⟩ := by
  have h : (fun id => ((c.beginUpload o info.contentType info.metadata).uploads.get? id).map
      Upload.assembly) = (c.holdings.setUpload c.nextUploadId ⟨kept info, fun _ => none⟩).upload := by
    funext id
    by_cases hid : id = c.nextUploadId
    · simp only [beginUpload, Table.get?_insert, beq_iff_eq, hid, ite_true, Holdings.setUpload]
      rfl
    · simp [beginUpload, Table.get?_insert, hid, Holdings.setUpload, holdings]
  simp only [holdings, h]
  rfl

/-- A change of an upload is seen in that upload alone. -/
theorem holdings_changeUpload (c : Contents) (id : String) (f : Upload → Upload)
    {g : Assembly → Assembly} (h : ∀ u, (f u).assembly = g u.assembly) :
    (c.changeUpload id f).holdings =
      match c.holdings.upload id with
      | some a => c.holdings.setUpload id (g a)
      | none => c.holdings := by
  unfold changeUpload
  cases hu : c.uploads.get? id with
  | none => simp [holdings, hu]
  | some u =>
    have hk : (fun k => ((c.uploads.insert id (f u)).get? k).map Upload.assembly) =
        (c.holdings.setUpload id (g u.assembly)).upload := by
      funext k
      by_cases hk : k = id <;> simp [Table.get?_insert, hk, Holdings.setUpload, holdings, h]
    simp only [holdings, hu, Option.map_some, hk]
    rfl

/-- An upload that is only marked looks the same. -/
theorem holdings_mark (c : Contents) (id : String) (f : Upload → Upload)
    (h : ∀ u, (f u).assembly = u.assembly) : (c.changeUpload id f).holdings = c.holdings := by
  rw [holdings_changeUpload c id f (g := fun a => a) h]
  split
  · next a ha =>
    have hk : (fun k => if k = id then some a else c.holdings.upload k) = c.holdings.upload := by
      funext k
      by_cases hk : k = id <;> simp [hk, ha]
    simp only [Holdings.setUpload, hk]
  · rfl

theorem holdings_completeUpload (c : Contents) (id : String) (o : ObjectId)
    (parts : List CompletedPart) :
    (c.completeUpload id o (parts.map (·.number))).holdings =
      match c.holdings.upload id with
      | some a => c.holdings.setObject o (some (a.make (a.assemble parts)))
      | none => c.holdings := by
  unfold completeUpload
  cases hu : c.uploads.get? id with
  | none => simp [holdings, hu]
  | some u =>
    have ha : c.holdings.upload id = some u.assembly := by simp [holdings, hu]
    have hm := holdings_mark c id (fun u => { u with completed := true }) fun _ => rfl
    rw [holdings_put, hm, ha]
    simp [Upload.assembly, Assembly.assemble, Upload.assemble, Function.comp_def]

end Contents

/-! ## The backend in memory -/

/-- The habit of a stream that gives all of its bytes, in chunks of any size. -/
def StreamHabit.IsWhole (h : StreamHabit) : Prop :=
  h.chunk ≠ some 0 ∧ h.failAfter = none ∧ h.overread = 0 ∧ h.closeFails = false

namespace MemoryStore

/-- What a request does in a store in memory where nothing goes wrong. -/
theorem serve_ok {streams : StreamPlan} {r : Request} {s s' : MemoryStore} {x : r.Reply Stream}
    (h : serve streams r s = (.ok x, s')) :
    s'.contents.holdings = s.contents.holdings.after kept r x := by
  cases r with
  | put o body length info =>
    simp only [serve, change, Action.bind_apply, Action.modify_apply, Action.get_apply,
      Action.pure_apply, Prod.mk.injEq] at h
    obtain ⟨-, rfl⟩ := h
    exact Contents.holdings_put _ _ _
  | get o range =>
    cases ho : s.contents.object? o <;>
      simp only [serve, Action.bind_apply, Action.get_apply, ho] at h <;> cases h
    rfl
  | head o =>
    cases ho : s.contents.object? o <;>
      simp only [serve, Action.bind_apply, Action.get_apply, ho] at h <;> cases h <;> rfl
  | delete o =>
    cases h
    exact Contents.holdings_delete _ _
  | beginUpload o info =>
    cases h
    exact Contents.holdings_beginUpload _ _ _
  | uploadPart o id n body length last =>
    cases h
    exact Contents.holdings_changeUpload _ _ _ fun u => Upload.assembly_setPart u n body
  | completeUpload o id parts =>
    cases h
    exact Contents.holdings_completeUpload _ _ _ _
  | abortUpload o id =>
    cases h
    exact Contents.holdings_mark _ _ _ fun _ => rfl
  | uploadFile o path content workers info =>
    cases h
    exact Contents.holdings_put _ _ _

theorem serve_error {streams : StreamPlan} {r : Request} {s s' : MemoryStore} {e : Failure}
    (h : serve streams r s = (.error e, s')) : s' = s := by
  cases r with
  | get o range =>
    cases ho : s.contents.object? o <;>
      simp only [serve, Action.bind_apply, Action.get_apply, ho] at h <;> cases h
    rfl
  | head o =>
    cases ho : s.contents.object? o <;>
      simp only [serve, Action.bind_apply, Action.get_apply, ho] at h <;> cases h
  | _ => cases h

/-- A call is noted, and then fails by the plan or is served. -/
theorem call_eq {plan : Plan Method Unit} {streams : StreamPlan} {r : Request}
    {s s' : MemoryStore} {x : Except Failure (r.Reply Stream)}
    (h : call plan streams r s = (x, s')) :
    (∃ e, x = .error e ∧ s' = s.note (.request r)) ∨
      serve streams r (s.note (.request r)) = (x, s') := by
  simp only [call, Action.bind_apply, Action.modify_apply, Action.get_apply] at h
  cases hp : plan (methodOf r) ((s.note (.request r)).methodCount (methodOf r)) with
  | none =>
    simp only [hp] at h
    exact .inr h
  | some f =>
    simp only [hp] at h
    cases f with
    | raise e =>
      cases h
      exact .inl ⟨e, rfl, rfl⟩
    | answer _ => exact .inr h

theorem call_ok {plan : Plan Method Unit} {streams : StreamPlan} {r : Request}
    {s s' : MemoryStore} {x : r.Reply Stream} (h : call plan streams r s = (.ok x, s')) :
    serve streams r (s.note (.request r)) = (.ok x, s') := by
  obtain ⟨e, he, -⟩ | h := call_eq h
  · cases he
  · exact h

end MemoryStore

namespace Stream

/-- The bytes that a stream has not delivered. -/
def left (t : Stream) : Bytes := t.data.drop t.delivered

/-- A whole stream is read on by some bytes, at most as many as asked for, until none are left. -/
theorem read_of_isWhole {t : Stream} {n : Nat} (h : t.habit.IsWhole) (hn : 0 < n) :
    ∃ chunk t', t.read (some n) = .ok (chunk, t') ∧ t'.habit.IsWhole ∧
      t.left = chunk ++ t'.left ∧ chunk.size ≤ n ∧ (chunk.size = 0 → t.left.size = 0) := by
  obtain ⟨hc, hf, ho, -⟩ := id h
  have hq : t.quota (some n) ≤ n ∧ 0 < t.quota (some n) := by
    cases hk : t.habit.chunk with
    | none => simp [quota, hf, hk, hn]
    | some k =>
      have : k ≠ 0 := fun h0 => hc (by rw [hk, h0])
      simp only [quota, hf, hk, Option.elim, Option.getD_some]
      omega
  have hb : t.isBroken = false := by simp [isBroken, hf]
  let chunk := t.data.slice t.delivered (t.delivered + t.quota (some n))
  have hs : chunk.size = min (t.delivered + t.quota (some n)) t.data.size - t.delivered :=
    Bytes.size_slice _ _ _
  refine ⟨chunk, { t with delivered := t.delivered + chunk.size }, ?_, h,
    Bytes.drop_eq_slice_append _ _ _, by omega, fun h0 => ?_⟩
  · simp only [read, hb, ho, Bool.false_eq_true, ite_false, Nat.add_zero]
    rfl
  · rw [← Bytes.length_toList, left, Bytes.toList_drop, List.length_drop, Bytes.length_toList]
    omega

end Stream

/-- The view of a store in memory. -/
def memoryView (plan : Plan Method Unit) (streams : StreamPlan) :
    (memoryBackend plan streams).View where
  holds s := s.contents.holdings
  keep := kept
  data_keep _ _ := rfl
  call_ok _ h := by
    have := MemoryStore.serve_ok (MemoryStore.call_ok h)
    exact this
  call_error h := by
    obtain ⟨e, -, rfl⟩ | h := MemoryStore.call_eq h
    · rfl
    · rw [MemoryStore.serve_error h]; rfl
  part_number h := by
    cases MemoryStore.call_ok h
    rfl
  found_head {o s r s'} h := by
    have h := MemoryStore.call_ok h
    show r.found = (s.contents.object? o).isSome
    cases ho : s.contents.object? o <;>
      simp only [MemoryStore.serve, Action.bind_apply, Action.get_apply, MemoryStore.note, ho] at h <;>
      cases h <;> rfl
  left := Stream.left
  IsWhole t := t.habit.IsWhole
  get_ok {o range s t s'} h := by
    have h := MemoryStore.call_ok h
    cases ho : s.contents.object? o with
    | none =>
      simp only [MemoryStore.serve, Action.bind_apply, Action.get_apply, MemoryStore.note, ho] at h
      cases h
    | some x =>
      simp only [MemoryStore.serve, Action.bind_apply, Action.get_apply, MemoryStore.note, ho] at h
      cases h
      exact ⟨x, ho, Bytes.ext_toList (by simp [Stream.left])⟩
  read_whole := Stream.read_of_isWhole
  close_whole {t} s h := by
    show (MemoryStore.close t s).1 = .ok ()
    simp [MemoryStore.close, Action.bind_apply, Stream.close, h.2.2.2]
  close_holds t s := rfl

/-- A store in memory files its objects by path. -/
theorem memoryView_namesByPath (plan : Plan Method Unit) (streams : StreamPlan) :
    (memoryView plan streams).NamesByPath := by
  intro s o k hk
  show s.contents.objects.get? k.path = s.contents.objects.get? o.path
  rw [hk]

/-! ## Names of uploads -/

namespace Contents

/-- The name of the upload that is begun as the `n`-th one. -/
def uploadName (n : Nat) : String := "upload-" ++ toString n

theorem uploadName_inj {m n : Nat} (h : uploadName m = uploadName n) : m = n := by
  have hdigits : Nat.toDigits 10 m = Nat.toDigits 10 n := by
    have := congrArg String.toList ((String.append_right_inj "upload-").mp h)
    simpa using this
  have hnumber := congrArg (fun l => Nat.ofDigitChars 10 l 0) hdigits
  simpa [Nat.ofDigitChars_toDigits] using hnumber

/-- No upload has a name that is still to come. -/
def NamesFree (c : Contents) : Prop :=
  ∀ n, c.uploads.entries.length < n → c.uploads.get? (uploadName n) = none

theorem NamesFree.nextUploadId {c : Contents} (h : c.NamesFree) :
    c.uploads.get? c.nextUploadId = none := h _ (Nat.lt_succ_self _)

theorem NamesFree.of_uploads_eq {c c' : Contents} (h : c.NamesFree) (hu : c'.uploads = c.uploads) :
    c'.NamesFree := by
  intro n hn
  rw [hu] at hn ⊢
  exact h n hn

theorem NamesFree.beginUpload {c : Contents} (h : c.NamesFree) (o : ObjectId)
    (contentType : Option String) (metadata : Metadata) :
    (c.beginUpload o contentType metadata).NamesFree := by
  intro n hn
  have hlength : (c.beginUpload o contentType metadata).uploads.entries.length =
      c.uploads.entries.length + 1 := by
    have hnone : c.uploads.entries.lookup c.nextUploadId = none := h.nextUploadId
    simp [Contents.beginUpload, Table.insert, Table.length_insertEntry, hnone]
  have hne : uploadName n ≠ c.nextUploadId := by
    intro heq
    have := uploadName_inj (heq : uploadName n = uploadName (c.uploads.entries.length + 1))
    omega
  rw [Contents.beginUpload, Table.get?_insert_other _ _ hne]
  exact h n (by omega)

theorem NamesFree.changeUpload {c : Contents} (h : c.NamesFree) (id : String)
    (f : Upload → Upload) : (c.changeUpload id f).NamesFree := by
  unfold Contents.changeUpload
  cases hu : c.uploads.get? id with
  | none => exact h
  | some u =>
    intro n hn
    have hlookup : c.uploads.entries.lookup id = some u := hu
    have hlength : (c.uploads.insert id (f u)).entries.length = c.uploads.entries.length := by
      simp [Table.insert, Table.length_insertEntry, hlookup]
    have hnone : c.uploads.get? (uploadName n) = none := h n (by rwa [← hlength])
    have hne : uploadName n ≠ id := by
      intro heq
      rw [heq, hu] at hnone
      cases hnone
    simpa [Table.get?_insert_other _ _ hne] using hnone

end Contents

namespace MemoryStore

theorem serve_namesFree {streams : StreamPlan} {r : Request} {s s' : MemoryStore}
    {x : Except Failure (r.Reply Stream)} (h : serve streams r s = (x, s'))
    (hs : s.contents.NamesFree) : s'.contents.NamesFree := by
  cases r with
  | get o range =>
    cases ho : s.contents.object? o <;>
      simp only [serve, Action.bind_apply, Action.get_apply, ho] at h <;> cases h <;> exact hs
  | head o =>
    cases ho : s.contents.object? o <;>
      simp only [serve, Action.bind_apply, Action.get_apply, ho] at h <;> cases h <;> exact hs
  | put | delete | uploadFile => cases h; exact hs.of_uploads_eq rfl
  | beginUpload => cases h; exact hs.beginUpload _ _ _
  | uploadPart | abortUpload => cases h; exact hs.changeUpload _ _
  | completeUpload o id parts =>
    cases h
    show (s.contents.completeUpload id o _).NamesFree
    unfold Contents.completeUpload
    split
    · exact (hs.changeUpload id _).of_uploads_eq rfl
    · exact hs

end MemoryStore

/-- A store in memory counts its uploads, and names them by their number. -/
theorem memoryView_namesUploads (plan : Plan Method Unit) (streams : StreamPlan) :
    (memoryView plan streams).NamesUploads fun s => s.contents.NamesFree where
  call {r s x s'} hs h := by
    obtain ⟨e, -, rfl⟩ | h := MemoryStore.call_eq h
    · exact hs
    · exact MemoryStore.serve_namesFree h hs
  close {t s x s'} hs h := by
    have hs' : s' = s.note (.closeStream t.delivered) := (congrArg Prod.snd h).symm
    rw [hs']
    exact hs
  fresh {o info s u s'} hs h := by
    have hu : u.uploadId = s.contents.nextUploadId := by
      cases MemoryStore.call_ok h
      rfl
    show (s.contents.uploads.get? u.uploadId).map Upload.assembly = none
    rw [hu, hs.nextUploadId]
    rfl

/-- A stream that is not broken gives something, unless it comes in chunks of nothing. -/
theorem Stream.quota_pos {t : Stream} (hb : t.isBroken = false) (hc : t.habit.chunk ≠ some 0)
    {n : Nat} (hn : 0 < n) : 0 < t.quota (some n) := by
  have hchunk : 0 < t.habit.chunk.elim n (min n ·) := by
    cases hk : t.habit.chunk with
    | none => exact hn
    | some k =>
      have hne : k ≠ 0 := fun h => hc (by rw [hk, h])
      simp only [Option.elim]
      omega
  cases hf : t.habit.failAfter with
  | none => simpa [quota, hf] using hchunk
  | some k =>
    have hlt : t.delivered < k := by simpa [isBroken, hf] using hb
    simp only [quota, hf, Option.elim, Option.getD_some] at hchunk ⊢
    omega

/-- A stream in memory gives what is left in it, unless it comes in chunks of nothing. -/
theorem memoryView_givesAll (plan : Plan Method Unit) (streams : StreamPlan)
    (h : ∀ n, (streams n).chunk ≠ some 0) :
    (memoryView plan streams).GivesAll fun t => t.habit.chunk ≠ some 0 where
  get {o range s t s'} hc := by
    have hc := MemoryStore.call_ok hc
    cases ho : s.contents.object? o <;>
      simp only [MemoryStore.serve, Action.bind_apply, Action.get_apply, MemoryStore.note, ho] at hc <;>
      cases hc
    exact h _
  read {t n chunk t'} hhonest hn hread := by
    have hread : t.read (some n) = .ok (chunk, t') := hread
    cases hb : t.isBroken with
    | true => simp [Stream.read, hb] at hread
    | false =>
      simp only [Stream.read, hb, Bool.false_eq_true, ite_false] at hread
      cases hread
      have hquota := Stream.quota_pos hb hhonest hn
      refine ⟨hhonest, Bytes.drop_eq_slice_append _ _ _, fun h0 => ?_⟩
      rw [Bytes.size_slice] at h0
      show (t.data.drop t.delivered).size = 0
      rw [Bytes.size_drop]
      omega

/-! ## Failures -/

theorem MemoryStore.serve_ordinary {streams : StreamPlan} {r : Request} {s s' : MemoryStore}
    {e : Failure} (h : MemoryStore.serve streams r s = (.error e, s')) : e.isInterrupt = false := by
  cases r with
  | get o range =>
    cases ho : s.contents.object? o <;>
      simp only [MemoryStore.serve, Action.bind_apply, Action.get_apply, ho] at h <;> cases h
    rfl
  | head o =>
    cases ho : s.contents.object? o <;>
      simp only [MemoryStore.serve, Action.bind_apply, Action.get_apply, ho] at h <;> cases h
  | _ => cases h

/-- A store in memory is interrupted only where that is planned. -/
theorem memoryBackend_failsOrdinarily {plan : Plan Method Unit} (streams : StreamPlan)
    (hplan : ∀ m n e, plan m n = some (.raise e) → e.isInterrupt = false) :
    (memoryBackend plan streams).FailsOrdinarily where
  call {r s e s'} h := by
    have h : MemoryStore.call plan streams r s = (.error e, s') := h
    simp only [MemoryStore.call, Action.bind_apply, Action.modify_apply, Action.get_apply] at h
    cases hp : plan (methodOf r) ((s.note (.request r)).methodCount (methodOf r)) with
    | none =>
      simp only [hp] at h
      exact MemoryStore.serve_ordinary h
    | some f =>
      simp only [hp] at h
      cases f with
      | raise e' =>
        cases h
        exact hplan _ _ _ hp
      | answer _ => exact MemoryStore.serve_ordinary h
  close {t s e s'} h := by
    have he : t.close = .error e := congrArg Prod.fst h
    unfold Stream.close at he
    split at he
    · cases he
      rfl
    · cases he

/-- Where nothing is planned to fail and all streams are whole, every object is delivered. -/
theorem memoryView_delivers (streams : StreamPlan) (h : ∀ n, (streams n).IsWhole) (o : ObjectId) :
    (memoryView .none streams).Delivers o := by
  intro s x hx range
  have hx : s.contents.object? o = some x := hx
  refine ⟨{ data := MemoryStore.clip x.data range, habit := streams s.streams }, ?_, h _⟩
  show (MemoryStore.call .none streams (.get o range) s).1 = _
  simp only [MemoryStore.call, Action.bind_apply, Action.modify_apply, Action.get_apply, Plan.none,
    MemoryStore.serve, MemoryStore.note, hx]
  rfl

/-- A world with an empty store in memory, and nothing recorded. -/
def emptyWorld : World (Recorded MemoryStore Stream) := { store := { store := {} } }

end ObjectChannel.Store
