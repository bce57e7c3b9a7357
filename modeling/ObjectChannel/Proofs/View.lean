/-
What a backend promises of the store behind it, whatever that store is.

A view says what a store holds: objects, and the parts of uploads that may become objects. A
request that goes well changes that as `Holdings.after` says, and one that fails changes nothing.
Nothing is promised of names and tags, of the replies' other fields, or of when a request goes well.
A stream gives the bytes that the view says are left in it, in chunks of any size; a stream that is
not whole may break off at any time.
-/
import ObjectChannel.Proofs.Exchange
import ObjectChannel.Store.Memory

namespace ObjectChannel

open Store (MemoryStore)

/-- An upload: the object that it makes of some bytes, and the parts that came in. -/
structure Assembly where
  make : Bytes → StoredObject
  part : Int → Option Bytes

namespace Assembly

def setPart (a : Assembly) (n : Int) (data : Bytes) : Assembly :=
  { a with part := fun k => if k = n then some data else a.part k }

/-- The listed parts, one after the other. -/
def assemble (a : Assembly) (parts : List CompletedPart) : Bytes :=
  .concat (parts.map fun p => (a.part p.number).getD .empty)

end Assembly

/-- What a store holds, as far as channels can tell. Names with the same path name one object. -/
structure Holdings where
  object : ObjectId → Option StoredObject
  upload : String → Option Assembly

namespace Holdings

def setObject (h : Holdings) (o : ObjectId) (x : Option StoredObject) : Holdings :=
  { h with object := fun k => if k.path = o.path then x else h.object k }

def setUpload (h : Holdings) (id : String) (a : Assembly) : Holdings :=
  { h with upload := fun k => if k = id then some a else h.upload k }

@[simp] theorem setObject_self (h : Holdings) (o : ObjectId) (x : Option StoredObject) :
    (h.setObject o x).object o = x := if_pos rfl

@[simp] theorem setObject_upload (h : Holdings) (o : ObjectId) (x : Option StoredObject) :
    (h.setObject o x).upload = h.upload := rfl

@[simp] theorem setUpload_self (h : Holdings) (id : String) (a : Assembly) :
    (h.setUpload id a).upload id = some a := if_pos rfl

@[simp] theorem setUpload_object (h : Holdings) (id : String) (a : Assembly) :
    (h.setUpload id a).object = h.object := rfl

variable {τ : Type}

/-- The holdings once a request has gone well. `keep` is the object that a store makes of what is
said about it and of its bytes. -/
def after (keep : ObjectInfo → Bytes → StoredObject) (h : Holdings) : (r : Request) →
    r.Reply τ → Holdings
  | .put o body _ info, _ => h.setObject o (some (keep info body))
  | .delete o, _ => h.setObject o none
  | .beginUpload _ info, u => h.setUpload u.uploadId ⟨keep info, fun _ => none⟩
  | .uploadPart _ id n body _ _, _ =>
    match h.upload id with
    | some a => h.setUpload id (a.setPart n body)
    | none => h
  | .completeUpload o id parts, _ =>
    match h.upload id with
    | some a => h.setObject o (some (a.make (a.assemble parts)))
    | none => h
  | .uploadFile o _ content _ info, _ => h.setObject o (some (keep info content))
  | .get .., _ | .head _, _ | .abortUpload .., _ => h

/-- The holdings once something has passed. -/
def next (keep : ObjectInfo → Bytes → StoredObject) (h : Holdings) : Exchange τ → Holdings
  | .call r (.ok x) => h.after keep r x
  | _ => h

@[simp] theorem next_error (keep : ObjectInfo → Bytes → StoredObject) (h : Holdings)
    (r : Request) (e : Failure) : h.next keep (.call r (.error e) : Exchange τ) = h := rfl

end Holdings

/-- A request that says what it should: lengths are those of the bytes, and the parts of an upload
are listed in ascending order. -/
def Request.IsOrderly : Request → Prop
  | .put _ body length _ => length = body.size
  | .uploadPart _ _ _ body length _ => length = body.size
  | .completeUpload _ _ parts => (parts.map (·.number)).Pairwise (· < ·)
  | _ => True

/-- What goes well says what it should. -/
def Exchange.IsOrderly {τ : Type} : Exchange τ → Prop
  | .call r (.ok _) => r.IsOrderly
  | _ => True

/-- The request changes objects, if it goes well. -/
def Request.changesObjects : Request → Bool
  | .put .. | .delete _ | .completeUpload .. | .uploadFile .. => true
  | _ => false

/-- It changes no object. -/
def Exchange.isQuiet {τ : Type} : Exchange τ → Bool
  | .call r (.ok _) => !r.changesObjects
  | _ => true

/-- It only looks: at an object, or at whether there is one. -/
def Exchange.isLook {τ : Type} : Exchange τ → Bool
  | .call (.get ..) _ | .call (.head _) _ | .closing .. => true
  | _ => false

/-- It sends a part to the upload of this name. -/
def Exchange.isPartOf {τ : Type} (id : String) : Exchange τ → Bool
  | .call (.uploadPart _ id' ..) _ => id' == id
  | _ => false

theorem Holdings.next_object_of_isQuiet {τ : Type} (keep : ObjectInfo → Bytes → StoredObject)
    (h : Holdings) {x : Exchange τ} (hx : x.isQuiet) : (h.next keep x).object = h.object := by
  cases x with
  | closing t r => rfl
  | call r x =>
    cases x with
    | error e => rfl
    | ok x =>
      cases r with
      | uploadPart o id n body length last =>
        simp only [Holdings.next, Holdings.after]
        split <;> rfl
      | put | delete | completeUpload | uploadFile => cases hx
      | _ => rfl

theorem Holdings.foldl_object_of_isQuiet {τ : Type} (keep : ObjectInfo → Bytes → StoredObject)
    {es : List (Exchange τ)} (hq : ∀ x ∈ es, x.isQuiet) (h : Holdings) :
    (es.foldl (·.next keep) h).object = h.object := by
  induction es generalizing h with
  | nil => rfl
  | cons x es ih =>
    rw [List.foldl_cons, ih fun y hy => hq y (.tail _ hy)]
    exact h.next_object_of_isQuiet keep (hq x (.head _))

/-- A whole stream is read on by some bytes, at most as many as asked for, until none are left. -/
structure Backend.WholeStreams {σ τ : Type} (b : Backend σ τ) (left : τ → Bytes)
    (IsWhole : τ → Prop) : Prop where
  read : ∀ {t n}, IsWhole t → 0 < n → ∃ chunk t', b.read t (some n) = .ok (chunk, t') ∧
    IsWhole t' ∧ left t = chunk ++ left t' ∧ chunk.size ≤ n ∧
    (chunk.size = 0 → (left t).size = 0)

/-- A view of the store behind a backend, with the laws that its requests and streams keep. -/
structure Backend.View {σ τ : Type} (b : Backend σ τ) where
  holds : σ → Holdings
  keep : ObjectInfo → Bytes → StoredObject
  data_keep : ∀ info body, (keep info body).data = body
  call_ok : ∀ {r s x s'}, r.IsOrderly → b.call r s = (.ok x, s') →
    holds s' = (holds s).after keep r x
  call_error : ∀ {r s e s'}, b.call r s = (.error e, s') → holds s' = holds s
  /-- A part that is taken has the number that was asked for. -/
  part_number : ∀ {o id n body len last s p s'},
    b.call (.uploadPart o id n body len last) s = (.ok p, s') → p.number = n
  found_head : ∀ {o s h s'}, b.call (.head o) s = (.ok h, s') →
    h.found = ((holds s).object o).isSome
  /-- The bytes that a stream has still to give. -/
  left : τ → Bytes
  /-- The stream will give them all, and close. -/
  IsWhole : τ → Prop
  get_ok : ∀ {o range s t s'}, b.call (.get o range) s = (.ok t, s') →
    ∃ x, (holds s).object o = some x ∧ left t = MemoryStore.clip x.data range
  read_whole : ∀ {t n}, IsWhole t → 0 < n → ∃ chunk t', b.read t (some n) = .ok (chunk, t') ∧
    IsWhole t' ∧ left t = chunk ++ left t' ∧ chunk.size ≤ n ∧
    (chunk.size = 0 → (left t).size = 0)
  close_whole : ∀ {t} (s), IsWhole t → (b.close t s).1 = .ok ()
  close_holds : ∀ t s, holds (b.close t s).2 = holds s

namespace Backend.View

variable {σ τ : Type} {b : Backend σ τ}

/-- Every request for the object or a range of it succeeds, and the stream is whole. -/
def Delivers (V : b.View) (o : ObjectId) : Prop :=
  ∀ ⦃s x⦄, (V.holds s).object o = some x → ∀ range,
    ∃ t, (b.call (.get o range) s).1 = .ok t ∧ V.IsWhole t

theorem wholeStreams (V : b.View) : b.WholeStreams V.left V.IsWhole := ⟨V.read_whole⟩

/-- Names with the same path name one object. -/
def NamesByPath (V : b.View) : Prop :=
  ∀ s o k, k.path = o.path → (V.holds s).object k = (V.holds s).object o

theorem isWhole_of_delivers {V : b.View} {o : ObjectId} (hV : V.Delivers o)
    {range : Option (Nat × Nat)} {s s' : σ} {t : τ} (h : b.call (.get o range) s = (.ok t, s')) :
    V.IsWhole t := by
  obtain ⟨x, hx, -⟩ := V.get_ok h
  obtain ⟨t', ht', hwhole⟩ := hV hx range
  rw [h] at ht'
  cases ht'
  exact hwhole

/-- Looking at an object changes nothing. -/
theorem holds_get (V : b.View) {o : ObjectId} {range : Option (Nat × Nat)} {s s' : σ}
    {x : Except Failure τ} (h : b.call (.get o range) s = (x, s')) : V.holds s' = V.holds s := by
  cases x with
  | ok t => exact V.call_ok (r := .get o range) trivial h
  | error e => exact V.call_error h

/-- Closing a stream changes nothing. -/
theorem holds_close (V : b.View) {t : τ} {s s' : σ} {x : Except Failure Unit}
    (h : b.close t s = (x, s')) : V.holds s' = V.holds s := by
  have hk := V.close_holds t s
  rwa [h] at hk

/-- Looking changes nothing, however it ends. -/
theorem holds_of_looks (V : b.View) {s s' : σ} {es : List (Exchange τ)} (h : b.Runs s es s')
    (hl : ∀ x ∈ es, x.isLook = true) : V.holds s' = V.holds s := by
  induction h with
  | nil => rfl
  | @call r x s s' s'' es hc _ ih =>
    rw [ih fun y hy => hl y (.tail _ hy)]
    have hx := hl _ (.head _)
    cases r with
    | get => exact V.holds_get hc
    | head =>
      cases x with
      | ok x => exact V.call_ok (r := .head _) trivial hc
      | error e => exact V.call_error hc
    | _ => cases hx
  | closing hc _ ih =>
    rw [ih fun y hy => hl y (.tail _ hy)]
    exact V.holds_close hc

/-- What passes changes the holdings as the requests that go well say, one after the other. -/
theorem holds_of_runs (V : b.View) {s s' : σ} {es : List (Exchange τ)} (h : b.Runs s es s')
    (ho : ∀ x ∈ es, x.IsOrderly) : V.holds s' = es.foldl (·.next V.keep) (V.holds s) := by
  induction h with
  | nil => rfl
  | @call r x s s' s'' es hc _ ih =>
    rw [List.foldl_cons, ih fun y hy => ho y (.tail _ hy)]
    cases x with
    | ok x =>
      have hx : r.IsOrderly := ho _ (.head _)
      rw [V.call_ok hx hc]
      rfl
    | error e => rw [V.call_error hc]; rfl
  | @closing t x s s' s'' es hc _ ih =>
    rw [List.foldl_cons, ih fun y hy => ho y (.tail _ hy), V.holds_close hc]
    rfl

/-! ## Names of uploads -/

/-- An upload is begun under a name that no upload has yet, as long as the store is sound. -/
structure NamesUploads (V : b.View) (sound : σ → Prop) : Prop where
  call : ∀ {r s x s'}, sound s → b.call r s = (x, s') → sound s'
  close : ∀ {t s x s'}, sound s → b.close t s = (x, s') → sound s'
  fresh : ∀ {o info s u s'}, sound s → b.call (.beginUpload o info) s = (.ok u, s') →
    (V.holds s).upload u.uploadId = none

variable {V : b.View} {sound : σ → Prop}

theorem NamesUploads.sound_of_runs (hV : V.NamesUploads sound) {s s' : σ} {es : List (Exchange τ)}
    (h : b.Runs s es s') (hs : sound s) : sound s' := by
  induction h with
  | nil => exact hs
  | call hc _ ih => exact ih (hV.call hs hc)
  | closing hc _ ih => exact ih (hV.close hs hc)

/-- A request leaves an upload as it is, unless it sends a part to it. -/
theorem NamesUploads.upload_of_call (hV : V.NamesUploads sound) {r : Request} {s s' : σ}
    {x : Except Failure (r.Reply τ)} (hs : sound s) (hc : b.call r s = (x, s'))
    (ho : (Exchange.call r x).IsOrderly) {id : String} (hid : (V.holds s).upload id ≠ none)
    (hn : (Exchange.call r x).isPartOf id = false) :
    (V.holds s').upload id = (V.holds s).upload id := by
  cases x with
  | error e => rw [V.call_error hc]
  | ok x =>
    rw [V.call_ok ho hc]
    cases r with
    | beginUpload o info =>
      have hne : id ≠ x.uploadId := fun h => hid (h ▸ hV.fresh hs hc)
      exact if_neg hne
    | uploadPart o id' n body length last =>
      have hne : id ≠ id' := by
        intro h
        simp [Exchange.isPartOf, h] at hn
      simp only [Holdings.after]
      split
      · exact if_neg hne
      · rfl
    | completeUpload o id' parts =>
      simp only [Holdings.after]
      split <;> rfl
    | put | delete | uploadFile | get | head | abortUpload => rfl

/-- An upload stays as it is as long as no part is sent to it. -/
theorem NamesUploads.upload_of_runs (hV : V.NamesUploads sound) {s s' : σ}
    {es : List (Exchange τ)} (h : b.Runs s es s') (hs : sound s) (ho : ∀ x ∈ es, x.IsOrderly)
    {id : String} (hid : (V.holds s).upload id ≠ none)
    (hn : ∀ x ∈ es, x.isPartOf id = false) :
    (V.holds s').upload id = (V.holds s).upload id := by
  induction h with
  | nil => rfl
  | call hc _ ih =>
    have hsame := hV.upload_of_call hs hc (ho _ (.head _)) hid (hn _ (.head _))
    rw [← hsame] at hid ⊢
    exact ih (hV.call hs hc) (fun y hy => ho y (.tail _ hy)) hid fun y hy => hn y (.tail _ hy)
  | closing hc _ ih =>
    rw [← V.holds_close hc] at hid ⊢
    exact ih (hV.close hs hc) (fun y hy => ho y (.tail _ hy)) hid fun y hy => hn y (.tail _ hy)

/-! ## Streams that break off -/

/-- No stream passes part of its bytes off as all of them: it gives what is left in it, and an empty
chunk only where nothing is left, or it fails. -/
structure GivesAll (V : b.View) (honest : τ → Prop) : Prop where
  get : ∀ {o range s t s'}, b.call (.get o range) s = (.ok t, s') → honest t
  read : ∀ {t n chunk t'}, honest t → 0 < n → b.read t (some n) = .ok (chunk, t') →
    honest t' ∧ V.left t = chunk ++ V.left t' ∧ (chunk.size = 0 → (V.left t).size = 0)

/-! ## Records -/

/-- The view of the store behind a record. -/
def recorded (V : b.View) : b.recorded.View where
  holds s := V.holds s.store
  keep := V.keep
  data_keep := V.data_keep
  call_ok ho h := V.call_ok ho (call_of_recorded h)
  call_error h := V.call_error (call_of_recorded h)
  part_number h := V.part_number (call_of_recorded h)
  found_head h := V.found_head (call_of_recorded h)
  left := V.left
  IsWhole := V.IsWhole
  get_ok h := V.get_ok (call_of_recorded h)
  read_whole := V.read_whole
  close_whole s h := V.close_whole s.store h
  close_holds t s := V.close_holds t s.store

/-- Every part that was taken has the number that was asked for. -/
theorem number_of_runs (V : b.View) {s s' : σ} {es : List (Exchange τ)} (h : b.Runs s es s')
    {o id n body len last p}
    (hp : Exchange.call (.uploadPart o id n body len last) (.ok p) ∈ es) : p.number = n := by
  induction h with
  | nil => simp at hp
  | call hc _ ih =>
    rcases List.mem_cons.mp hp with hp | hp
    · cases hp; exact V.part_number hc
    · exact ih hp
  | closing _ _ ih =>
    rcases List.mem_cons.mp hp with hp | hp
    · cases hp
    · exact ih hp

end Backend.View

end ObjectChannel
