/-
The contents of a store without what is said about its objects, and what requests do to them. Content
types and metadata come and go with the way a store is reached; names, bytes and parts do not.
-/
import ObjectChannel.Backend
import ObjectChannel.Proofs.MemoryView

namespace ObjectChannel

/-- The object, without what is said about it. -/
def StoredObject.bare (x : StoredObject) : StoredObject := { data := x.data }

namespace Store

/-- The upload, without what is said about the object that is to be. -/
def Upload.bare (u : Upload) : Upload := { u with contentType := none, metadata := Table.empty }

namespace Contents

/-- The contents, without what is said about the objects. -/
def bare (c : Contents) : Contents :=
  { objects := c.objects.map StoredObject.bare, uploads := c.uploads.map Upload.bare }

theorem object?_bare (c : Contents) (o : ObjectId) :
    c.bare.object? o = (c.object? o).map StoredObject.bare := Table.get?_map ..

theorem upload?_bare (c : Contents) (id : String) :
    c.bare.uploads.get? id = (c.uploads.get? id).map Upload.bare := Table.get?_map ..

theorem nextUploadId_bare (c : Contents) : c.bare.nextUploadId = c.nextUploadId := by
  simp [nextUploadId, bare, Table.map]

theorem bare_put (c : Contents) (o : ObjectId) (x : StoredObject) :
    (c.put o x).bare = c.bare.put o x.bare := by
  simp only [bare, put, Table.map_insert]

theorem bare_delete (c : Contents) (o : ObjectId) : (c.delete o).bare = c.bare.delete o := by
  simp only [bare, delete, Table.map_erase]

theorem bare_beginUpload (c : Contents) (o : ObjectId) (contentType : Option String)
    (metadata : Metadata) :
    (c.beginUpload o contentType metadata).bare = c.bare.beginUpload o none Table.empty := by
  simp only [beginUpload, nextUploadId_bare]
  simp only [bare, Table.map_insert]
  rfl

theorem bare_changeUpload (c : Contents) (id : String) (f : Upload → Upload)
    (hf : ∀ u, (f u).bare = f u.bare) : (c.changeUpload id f).bare = c.bare.changeUpload id f := by
  unfold changeUpload
  rw [upload?_bare]
  cases c.uploads.get? id with
  | none => rfl
  | some u =>
    simp only [Option.map_some, bare, Table.map_insert, hf]

theorem bare_completeUpload (c : Contents) (id : String) (o : ObjectId) (numbers : List Int) :
    (c.completeUpload id o numbers).bare = c.bare.completeUpload id o numbers := by
  unfold completeUpload
  rw [upload?_bare]
  cases c.uploads.get? id with
  | none => rfl
  | some u =>
    simp only [Option.map_some, bare_put]
    rw [bare_changeUpload c id (fun u => { u with completed := true }) fun _ => rfl]
    rfl

/-! ## Uploads that stay -/

/-- Every upload is there still, with all of its parts. -/
def KeepsUploads (c c' : Contents) : Prop :=
  ∀ id u, c.uploads.get? id = some u →
    ∃ u', c'.uploads.get? id = some u' ∧ ∀ n, (u.part? n).isSome → (u'.part? n).isSome

theorem KeepsUploads.refl (c : Contents) : c.KeepsUploads c := fun _ u h => ⟨u, h, fun _ => id⟩

theorem KeepsUploads.trans {c c' c'' : Contents} (h : c.KeepsUploads c')
    (h' : c'.KeepsUploads c'') : c.KeepsUploads c'' := by
  intro id u hu
  obtain ⟨u', hu', hparts⟩ := h id u hu
  obtain ⟨u'', hu'', hparts'⟩ := h' id u' hu'
  exact ⟨u'', hu'', fun n hn => hparts' n (hparts n hn)⟩

theorem keepsUploads_beginUpload {c : Contents} (h : c.NamesFree) (o : ObjectId)
    (contentType : Option String) (metadata : Metadata) :
    c.KeepsUploads (c.beginUpload o contentType metadata) := by
  intro id u hu
  have hne : id ≠ c.nextUploadId := by
    intro heq
    rw [heq, h.nextUploadId] at hu
    cases hu
  exact ⟨u, (Table.get?_insert_other _ _ hne).trans hu, fun _ => fun h => h⟩

theorem keepsUploads_changeUpload (c : Contents) (id : String) (f : Upload → Upload)
    (hf : ∀ u n, (u.part? n).isSome → ((f u).part? n).isSome) :
    c.KeepsUploads (c.changeUpload id f) := by
  intro k u hu
  unfold changeUpload
  cases hid : c.uploads.get? id with
  | none => exact ⟨u, hu, fun _ => fun h => h⟩
  | some u₀ =>
    by_cases hk : k = id
    · subst hk
      obtain rfl : u₀ = u := Option.some.inj (hid.symm.trans hu)
      exact ⟨f u₀, Table.get?_insert_self .., hf u₀⟩
    · exact ⟨u, (Table.get?_insert_other _ _ hk).trans hu, fun _ => fun h => h⟩

end Contents
end Store

/-! ## What requests do -/

namespace Request

open Store (Contents)

/-- What a request does to bare contents. -/
def effect : Request → Contents → Contents
  | .put o body _ _, c => c.put o { data := body }
  | .delete o, c => c.delete o
  | .beginUpload o _, c => c.beginUpload o none Table.empty
  | .uploadPart _ id n body _ _, c => c.addPart id n body
  | .completeUpload o id parts, c => c.completeUpload id o (parts.map (·.number))
  | .abortUpload _ id, c => c.abortUpload id
  | .uploadFile o _ content _ _, c => c.put o { data := content }
  | .get .., c | .head _, c => c

/-- The request makes sense with these contents: it speaks of an upload that is there, and lists
parts that are there, in ascending order, and a transfer has workers. Requests for bytes are dealt
with on their own. -/
def Fits : Request → Contents → Prop
  | .uploadPart _ id .., c | .abortUpload _ id, c => (c.uploads.get? id).isSome
  | .completeUpload _ id parts, c =>
    (parts.map (·.number)).Pairwise (· < ·) ∧
      ∃ u, c.uploads.get? id = some u ∧ ∀ p ∈ parts, (u.part? p.number).isSome
  | .uploadFile _ _ _ workers _, _ => 0 < workers
  | .get .., _ => False
  | _, _ => True

variable {c : Contents}

/-- Names of uploads that are still to come stay free. -/
theorem effect_namesFree (r : Request) (h : c.NamesFree) : (r.effect c).NamesFree := by
  cases r with
  | put | delete | uploadFile => exact h.of_uploads_eq rfl
  | beginUpload => exact h.beginUpload _ _ _
  | uploadPart | abortUpload => exact h.changeUpload _ _
  | completeUpload o id parts =>
    show (c.completeUpload id o _).NamesFree
    unfold Contents.completeUpload
    split
    · exact (h.changeUpload id _).of_uploads_eq rfl
    · exact h
  | get | head => exact h

/-- No request takes an upload away, or a part of one. -/
theorem effect_keepsUploads (r : Request) (h : c.NamesFree) : c.KeepsUploads (r.effect c) := by
  cases r with
  | put | delete | uploadFile | get | head => exact fun id u hu => ⟨u, hu, fun _ h => h⟩
  | beginUpload => exact Contents.keepsUploads_beginUpload h _ _ _
  | uploadPart o id k body length last =>
    refine Contents.keepsUploads_changeUpload c id _ fun u n hn => ?_
    rw [Store.Upload.part?_setPart]
    split
    · rfl
    · exact hn
  | abortUpload o id => exact Contents.keepsUploads_changeUpload c id _ fun _ _ hn => hn
  | completeUpload o id parts =>
    show c.KeepsUploads (c.completeUpload id o _)
    unfold Contents.completeUpload
    split
    · exact Contents.keepsUploads_changeUpload c id _ fun _ _ hn => hn
    · exact .refl c

end Request
end ObjectChannel
