/-
Backends that do as they are asked to. Whether a request goes well, and what it does, is a matter of
the bare contents of the store alone; the streams are whole. Two such backends may still differ in the
tags and the other fields of their replies, in the wording of failures, in the chunks of their streams,
and in how far out a range may end that they can ask for.
-/
import ObjectChannel.Proofs.Plain.Contents

namespace ObjectChannel

open Store (Contents MemoryStore)

variable {σ τ : Type}

/-- What the reply to a request says, where it says anything that channels go by. -/
def Request.Says (c : Contents) : (r : Request) → r.Reply τ → Prop
  | .head o, h => h.found = (c.object? o).isSome
  | .beginUpload .., u => u.uploadId = c.nextUploadId
  | .uploadPart _ id n .., p => p = { number := n, tag := s!"etag-{id}-{n}" }
  | _, _ => True

structure Backend.Plain (b : Backend σ τ) where
  /-- The bare contents of the store. -/
  contents : σ → Contents
  /-- A range that ends here can be asked for. -/
  Reaches : Nat → Prop
  /-- The bytes that a stream has still to give. -/
  left : τ → Bytes
  IsWhole : τ → Prop
  streams : b.WholeStreams left IsWhole
  call_fits : ∀ (r : Request) (s : σ), r.Fits (contents s) → ∃ x s', b.call r s = (.ok x, s') ∧
    r.Says (contents s) x ∧ contents s' = r.effect (contents s)
  get_object : ∀ (o : ObjectId) (s : σ) (x : StoredObject) (range : Option (Nat × Nat)),
    (contents s).object? o = some x → (∀ i j, range = some (i, j) → i < j ∧ Reaches j) →
    ∃ t s', b.call (.get o range) s = (.ok t, s') ∧ IsWhole t ∧
      left t = MemoryStore.clip x.data range ∧ contents s' = contents s
  get_missing : ∀ (o : ObjectId) (s : σ) (i j : Nat), (contents s).object? o = none → i < j →
    Reaches j → ∃ e s', b.call (.get o (some (i, j))) s = (.error e, s') ∧ e.isInterrupt = false ∧
      e ≠ .tooManyDigits ∧ contents s' = contents s
  get_beyond : ∀ (o : ObjectId) (s : σ) (i j : Nat), i < j → ¬Reaches j →
    ∃ s', b.call (.get o (some (i, j))) s = (.error .tooManyDigits, s') ∧ contents s' = contents s
  close_whole : ∀ (t : τ) (s : σ), IsWhole t →
    ∃ s', b.close t s = (.ok (), s') ∧ contents s' = contents s

namespace Store

namespace MemoryStore

/-- A request that fits is served, and changes the contents as it should. -/
theorem serve_fits {streams : StreamPlan} {r : Request} {s : MemoryStore}
    (hr : r.Fits s.contents.bare) :
    ∃ x s', serve streams r s = (.ok x, s') ∧ r.Says s.contents.bare x ∧
      s'.contents.bare = r.effect s.contents.bare := by
  cases r with
  | put o body length info => exact ⟨_, _, rfl, trivial, Contents.bare_put ..⟩
  | get => cases hr
  | head o =>
    have hfound : (s.contents.bare.object? o).isSome = (s.contents.object? o).isSome := by
      rw [Contents.object?_bare, Option.isSome_map]
    simp only [serve, Action.bind_apply, Action.get_apply, Request.Says, hfound]
    cases s.contents.object? o <;> exact ⟨_, _, rfl, rfl, rfl⟩
  | delete o => exact ⟨_, _, rfl, trivial, Contents.bare_delete ..⟩
  | beginUpload o info =>
    exact ⟨_, _, rfl, s.contents.nextUploadId_bare.symm, Contents.bare_beginUpload ..⟩
  | uploadPart o id n body length last =>
    exact ⟨_, _, rfl, rfl, Contents.bare_changeUpload _ _ _ fun _ => rfl⟩
  | completeUpload o id parts => exact ⟨_, _, rfl, trivial, Contents.bare_completeUpload ..⟩
  | abortUpload o id =>
    exact ⟨_, _, rfl, trivial, Contents.bare_changeUpload _ _ _ fun _ => rfl⟩
  | uploadFile o path content workers info => exact ⟨_, _, rfl, trivial, Contents.bare_put ..⟩

end MemoryStore

/-! ## The store in memory -/

section

variable {streams : StreamPlan} (h : ∀ n, (streams n).IsWhole)

theorem memoryBackend_streams : (memoryBackend .none streams).WholeStreams Stream.left fun t =>
    t.habit.IsWhole := ⟨Stream.read_of_isWhole⟩

theorem memoryBackend_fits (r : Request) (s : MemoryStore) (hr : r.Fits s.contents.bare) :
    ∃ x s', (memoryBackend .none streams).call r s = (.ok x, s') ∧ r.Says s.contents.bare x ∧
      s'.contents.bare = r.effect s.contents.bare :=
  MemoryStore.serve_fits (s := s.note (.request r)) hr

include h in
theorem memoryBackend_object (o : ObjectId) (s : MemoryStore) (x : StoredObject)
    (range : Option (Nat × Nat)) (hx : s.contents.bare.object? o = some x) :
    ∃ t s', (memoryBackend .none streams).call (.get o range) s = (.ok t, s') ∧ t.habit.IsWhole ∧
      t.left = MemoryStore.clip x.data range ∧ s'.contents.bare = s.contents.bare := by
  obtain ⟨y, hy, rfl⟩ : ∃ y, s.contents.object? o = some y ∧ y.bare = x := by
    simpa [Contents.object?_bare] using hx
  have hcall : MemoryStore.serve streams (.get o range) (s.note (.request (.get o range))) =
      (.ok { data := MemoryStore.clip y.data range, habit := streams s.streams },
        { s.note (.request (.get o range)) with streams := s.streams + 1 }) := by
    simp only [MemoryStore.serve, Action.bind_apply, Action.get_apply, MemoryStore.note, hy]
    rfl
  exact ⟨_, _, hcall, h _, Bytes.ext_toList (by simp [Stream.left, StoredObject.bare]), rfl⟩

theorem memoryBackend_missing (o : ObjectId) (s : MemoryStore) (i j : Nat)
    (hx : s.contents.bare.object? o = none) :
    ∃ e s', (memoryBackend .none streams).call (.get o (some (i, j))) s = (.error e, s') ∧
      e.isInterrupt = false ∧ e ≠ .tooManyDigits ∧ s'.contents.bare = s.contents.bare := by
  have hx : s.contents.object? o = none := by simpa [Contents.object?_bare] using hx
  refine ⟨.storage "NoSuchKey" none, s.note (.request (.get o (some (i, j)))), ?_, rfl,
    (fun he => by cases he), rfl⟩
  show MemoryStore.serve streams (.get o (some (i, j))) (s.note _) = _
  simp only [MemoryStore.serve, Action.bind_apply, Action.get_apply, MemoryStore.note, hx]
  rfl

theorem memoryBackend_close (t : Stream) (s : MemoryStore) (ht : t.habit.IsWhole) :
    ∃ s', (memoryBackend .none streams).close t s = (.ok (), s') ∧
      s'.contents.bare = s.contents.bare := by
  refine ⟨s.note (.closeStream t.delivered), ?_, rfl⟩
  show MemoryStore.close t s = _
  simp only [MemoryStore.close, Action.bind_apply, Action.modify_apply, Stream.close, ht.2.2.2]
  rfl

/-- A store in memory is plain where nothing is planned to fail and all streams are whole. It can be
asked for any range. -/
def memoryPlain : (memoryBackend .none streams).Plain where
  contents s := s.contents.bare
  Reaches _ := True
  left := Stream.left
  IsWhole t := t.habit.IsWhole
  streams := memoryBackend_streams
  call_fits := memoryBackend_fits
  get_object o s x range hx _ := memoryBackend_object h o s x range hx
  get_missing o s i j hx _ _ := memoryBackend_missing o s i j hx
  get_beyond _ _ _ _ _ hreach := absurd trivial hreach
  close_whole := memoryBackend_close

end

end Store

end ObjectChannel
