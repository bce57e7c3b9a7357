/-
A writer keeps to an upload of its own: it sends parts to no other, and one that it begins was
nobody's before. So the uploads of different writers never mix, not even those for the same object.
-/
import ObjectChannel.Proofs.Writer.Draft

namespace ObjectChannel.Writer

variable {σ τ : Type}

/-! ## Uploads that moves are about -/

/-- The upload is the one that the writer has, or one that it begins first. -/
inductive OwnUpload (w : Writer) : List (Exchange τ) → String → Prop where
  | had {es id} (h : w.uploadId = some id) : OwnUpload w es id
  | begun {o info u es} : OwnUpload w (.call (.beginUpload o info) (.ok u) :: es) u.uploadId

/-- Parts are sent to an own upload, and an own upload is what the writer has afterwards. -/
structure KeepsToOwn (w : Writer) (es : List (Exchange τ)) (w' : Writer) : Prop where
  parts : ∀ x ∈ es, ∀ id, x.isPartOf id = true → OwnUpload w es id
  upload : ∀ id, w'.uploadId = some id → OwnUpload w es id

section

variable {limits : Limits} {w w' : Writer} {es : List (Exchange τ)} {id : String}

theorem OwnUpload.append (h : OwnUpload w es id) (es' : List (Exchange τ)) :
    OwnUpload w (es ++ es') id := by
  cases h with
  | had h => exact .had h
  | begun => exact .begun

/-- A move that sends no parts, and begins no upload. -/
theorem KeepsToOwn.of_no_parts (hp : ∀ x ∈ es, ∀ id, x.isPartOf id = false)
    (hu : ∀ id, w'.uploadId = some id → w.uploadId = some id) : KeepsToOwn w es w' := by
  refine ⟨fun x hx id hid => ?_, fun id hid => .had (hu id hid)⟩
  rw [hp x hx id] at hid
  cases hid

/-- A move that asks for nothing. -/
theorem KeepsToOwn.silent (hu : ∀ id, w'.uploadId = some id → w.uploadId = some id) :
    KeepsToOwn w ([] : List (Exchange τ)) w' :=
  .of_no_parts (List.forall_mem_nil _) hu

theorem AbortMove.no_parts {r : Except Failure Unit} (h : AbortMove w es r w') :
    (∀ x ∈ es, ∀ id, x.isPartOf id = false) ∧
      ∀ id, w'.uploadId = some id → w.uploadId = some id := by
  cases h with
  | none => exact ⟨List.forall_mem_nil _, fun id hid => hid⟩
  | attempt => exact ⟨fun x hx id => by rw [List.mem_singleton.mp hx]; rfl, fun id hid => by cases hid⟩

theorem CompleteMove.no_parts {r : Except Failure Unit} (h : CompleteMove w id es r w') :
    (∀ x ∈ es, ∀ id, x.isPartOf id = false) ∧
      ∀ id, w'.uploadId = some id → w.uploadId = some id := by
  cases h with
  | completed => exact ⟨fun x hx id => by rw [List.mem_singleton.mp hx]; rfl, fun id hid => by cases hid⟩
  | interrupted => exact ⟨fun x hx id => by rw [List.mem_singleton.mp hx]; rfl, fun id hid => hid⟩
  | refused he abort =>
    obtain ⟨hp, hu⟩ := abort.no_parts
    refine ⟨fun x hx id => ?_, hu⟩
    rcases List.mem_cons.mp hx with rfl | hx
    · rfl
    · exact hp x hx id

/-- A part is sent to the upload that it is for, and the writer has no other afterwards. -/
theorem PartMove.own {block : Bytes} {isLast : Bool} {r : Except Failure Unit}
    (h : PartMove w id block isLast es r w') (hid : w.uploadId = some id) :
    (∀ x ∈ es, ∀ id', x.isPartOf id' = true → id' = id) ∧
      ∀ id', w'.uploadId = some id' → id' = id := by
  have hrequest (x : Except Failure CompletedPart) (id' : String)
      (h : (Exchange.call (τ := τ) (w.partRequest id block isLast) x).isPartOf id' = true) :
      id' = id := by
    have : (id == id') = true := h
    exact (beq_iff_eq.mp this).symm
  have hsame (id' : String) (h : w.uploadId = some id') : id' = id :=
    Option.some.inj (h.symm.trans hid)
  cases h with
  | taken | interrupted =>
    refine ⟨fun x hx id' h => ?_, hsame⟩
    rw [List.mem_singleton.mp hx] at h
    exact hrequest _ id' h
  | refused he abort =>
    obtain ⟨hp, hu⟩ := abort.no_parts
    refine ⟨fun x hx id' h => ?_, fun id' h => hsame id' (hu id' h)⟩
    rcases List.mem_cons.mp hx with rfl | hx
    · exact hrequest _ id' h
    · rw [hp x hx id'] at h
      cases h

theorem UploadMove.keepsToOwn {block : Bytes} {isLast : Bool} {r : Except Failure Unit}
    (h : UploadMove w block isLast es r w') : KeepsToOwn w es w' := by
  cases h with
  | further hid part =>
    obtain ⟨hp, hu⟩ := part.own hid
    refine ⟨fun x hx id h => ?_, fun id h => ?_⟩
    · rw [hp x hx id h]
      exact .had hid
    · rw [hu id h]
      exact .had hid
  | first hid u part =>
    obtain ⟨hp, hu⟩ := part.own rfl
    refine ⟨fun x hx id h => ?_, fun id h => ?_⟩
    · rcases List.mem_cons.mp hx with rfl | hx
      · cases h
      · rw [hp x hx id h]
        exact .begun
    · rw [hu id h]
      exact .begun
  | refused | interrupted =>
    refine .of_no_parts (fun x hx id => ?_) fun id h => h
    rw [List.mem_singleton.mp hx]
    rfl

theorem PublishMove.keepsToOwn {r : Except Failure Unit} (h : PublishMove limits w es r w') :
    KeepsToOwn w es w' := by
  cases h with
  | stored | notStored =>
    refine .of_no_parts (fun x hx id => ?_) fun id h => h
    rw [List.mem_singleton.mp hx]
    rfl
  | assembled hid hl complete => exact .of_no_parts complete.no_parts.1 complete.no_parts.2
  | stopped hid hl upload => exact upload.keepsToOwn
  | extended hid hl upload complete =>
    obtain ⟨hp, hu⟩ := complete.no_parts
    refine ⟨fun x hx id h => ?_, fun id h => ?_⟩
    · rcases List.mem_append.mp hx with hx | hx
      · exact (upload.keepsToOwn.parts x hx id h).append _
      · rw [hp x hx id] at h
        cases h
    · exact (upload.keepsToOwn.upload id (hu id h)).append _

/-- Every move keeps to an own upload. -/
theorem Move.keepsToOwn {op : Operation} {r : Except Failure Answer}
    (h : Move limits w op es r w') : KeepsToOwn w es w' := by
  cases h with
  | write m =>
    cases m with
    | closed | notBytes | nothing | held => exact .silent fun id h => h
    | full hc hd hf abort => exact .of_no_parts abort.no_parts.1 abort.no_parts.2
    | sent hc hd hf hs upload =>
      obtain ⟨hp, hu⟩ := upload.keepsToOwn
      have hown {id : String} (h : OwnUpload { w with pending := .empty } es id) :
          OwnUpload w es id := by
        cases h with
        | had h => exact .had h
        | begun => exact .begun
      exact ⟨fun x hx id h => hown (hp x hx id h), fun id h => hown (hu id h)⟩
  | close hop m =>
    cases m with
    | again => exact .silent fun id h => h
    | published hc publish => exact ⟨publish.keepsToOwn.parts, publish.keepsToOwn.upload⟩
  | discard hop m =>
    cases m with
    | again => exact .silent fun id h => h
    | dropped hc abort => exact .of_no_parts abort.no_parts.1 abort.no_parts.2
  | other => exact .silent fun id h => h

end

/-! ## Requests that are orderly -/

section

variable {b : Backend σ τ} {V : b.View} {limits : Limits} {w w' : Writer}
  {es : List (Exchange τ)} {sent : List SentPart} {s s' : σ}

theorem AbortMove.orderly {r : Except Failure Unit} (m : AbortMove w es r w') :
    ∀ x ∈ es, x.IsOrderly := by
  cases m with
  | none => exact List.forall_mem_nil _
  | attempt hid x =>
    intro y hy
    rw [List.mem_singleton.mp hy]
    cases x <;> exact trivial

theorem PartMove.orderly {id : String} {block : Bytes} {isLast : Bool} {r : Except Failure Unit}
    (m : PartMove w id block isLast es r w') : ∀ x ∈ es, x.IsOrderly := by
  intro x hx
  cases m with
  | taken p =>
    rw [List.mem_singleton.mp hx]
    exact rfl
  | interrupted =>
    rw [List.mem_singleton.mp hx]
    exact trivial
  | refused he abort =>
    rcases List.mem_cons.mp hx with rfl | hx
    · exact trivial
    · exact abort.orderly x hx

theorem UploadMove.orderly {block : Bytes} {isLast : Bool} {r : Except Failure Unit}
    (m : UploadMove w block isLast es r w') : ∀ x ∈ es, x.IsOrderly := by
  intro x hx
  cases m with
  | further hid part => exact part.orderly x hx
  | first hid u part =>
    rcases List.mem_cons.mp hx with rfl | hx
    · exact trivial
    · exact part.orderly x hx
  | refused | interrupted =>
    rw [List.mem_singleton.mp hx]
    exact trivial

/-- The parts that a deposit has are listed in the order of their numbers. -/
theorem CompleteMove.orderly {keep : ObjectInfo → Bytes → StoredObject} {h : Holdings} {id : String}
    {r : Except Failure Unit} (m : CompleteMove w id es r w') (hd : Deposit keep h w sent)
    (hid : w.uploadId = some id) : ∀ x ∈ es, x.IsOrderly := by
  intro x hx
  cases m with
  | completed =>
    rw [List.mem_singleton.mp hx]
    cases hd with
    | nothing hid' => simp [hid] at hid'
    | upload hid' hp hn hu =>
      show (w.parts.map (·.number)).Pairwise (· < ·)
      rw [hp]
      exact hn.pairwise
  | interrupted =>
    rw [List.mem_singleton.mp hx]
    exact trivial
  | refused he abort =>
    rcases List.mem_cons.mp hx with rfl | hx
    · exact trivial
    · exact abort.orderly x hx

theorem PublishMove.orderly {r : Except Failure Unit} (m : PublishMove limits w es r w')
    (hr : b.Runs s es s') (hd : Deposit V.keep (V.holds s) w sent) : ∀ x ∈ es, x.IsOrderly := by
  intro x hx
  cases m with
  | stored =>
    rw [List.mem_singleton.mp hx]
    exact rfl
  | notStored =>
    rw [List.mem_singleton.mp hx]
    exact trivial
  | assembled hid hl complete => exact complete.orderly hd hid x hx
  | stopped hid hl upload => exact upload.orderly x hx
  | extended hid hl upload complete =>
    obtain ⟨s₁, hr₁, -⟩ := hr.of_append
    rcases List.mem_append.mp hx with hx | hx
    · exact upload.orderly x hx
    · obtain ⟨-, ⟨id', p, hid', -, -, rfl, hd'⟩ | ⟨e, he, -⟩ | ⟨⟨e, he⟩, -⟩⟩ :=
        upload.deposit V hr₁ hd
      · obtain rfl := hid' _ hid
        exact complete.orderly hd' rfl x hx
      · cases he
      · cases he

theorem Draft.orderly {op : Operation} {r : Except Failure Answer} {data : Bytes}
    (hd : Draft limits V.keep (V.holds s) w data) (m : Move limits w op es r w')
    (hr : b.Runs s es s') : ∀ x ∈ es, x.IsOrderly := by
  obtain ⟨sent, hdep, -⟩ := hd.deposit
  cases m with
  | write m =>
    cases m with
    | closed | notBytes | nothing | held => exact List.forall_mem_nil _
    | full hc hd hf abort => exact abort.orderly
    | sent hc hd hf hs upload => exact upload.orderly
  | close hop m =>
    cases m with
    | again => exact List.forall_mem_nil _
    | published hc publish => exact publish.orderly hr hdep
  | discard hop m =>
    cases m with
    | again => exact List.forall_mem_nil _
    | dropped hc abort => exact abort.orderly
  | other => exact List.forall_mem_nil _

/-- **A writer with a draft leaves every other upload as it is**, and never takes it for its own. -/
theorem Draft.apart {sound : σ → Prop} (hV : V.NamesUploads sound) (hs : sound s) {op : Operation}
    {r : Except Failure Answer} {data : Bytes} (hd : Draft limits V.keep (V.holds s) w data)
    (m : Move limits w op es r w') (hr : b.Runs s es s') {id : String}
    (hid : (V.holds s).upload id ≠ none) (hne : w.uploadId ≠ some id) :
    (V.holds s').upload id = (V.holds s).upload id ∧ w'.uploadId ≠ some id := by
  have hother : ¬OwnUpload w es id := by
    intro h
    cases h with
    | had h => exact hne h
    | begun =>
      cases hr with
      | call hc rest => exact hid (hV.fresh hs hc)
  refine ⟨hV.upload_of_runs hr hs (hd.orderly m hr) hid fun x hx => ?_, fun h => ?_⟩
  · cases hp : x.isPartOf id with
    | false => rfl
    | true => exact (hother (m.keepsToOwn.parts x hx id hp)).elim
  · exact hother (m.keepsToOwn.upload id h)

end

end ObjectChannel.Writer
