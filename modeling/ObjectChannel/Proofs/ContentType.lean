/-
What the content type of an object depends on: the first of the known signatures that stands in the
content in full, and the name where the signature leaves something open. No signature goes on behind the
first 262 bytes, so the head of a file that is looked at tells as much as the whole file.
-/
import Mathlib.Data.List.Find
import ObjectChannel.ContentType.Detect

namespace ObjectChannel

theorem Bytes.holdsAt_iff {b pattern : Bytes} {pos : Nat} :
    b.holdsAt pos pattern = true ↔ (b.toList.take (pos + pattern.size)).drop pos = pattern.toList := by
  rw [← toList_slice, holdsAt, beq_iff_eq]
  exact ⟨fun h => congrArg Array.toList h, fun h => Array.toList_inj.mp h⟩

namespace ContentType

/-- Where the signature ends. -/
def Signature.stop (s : Signature) : Nat := s.position + s.bytes.length

/-- The whole signature stands in the content at its position. -/
def Signature.Marks (s : Signature) (content : Bytes) : Prop :=
  ∃ before after, before.length = s.position ∧ content.toList = before ++ s.bytes ++ after

theorem Signature.isIn_iff_slice {s : Signature} {content : Bytes} :
    s.isIn content = true ↔ (content.toList.take s.stop).drop s.position = s.bytes := by
  have hsize : (Bytes.ofList s.bytes).size = s.bytes.length := by
    rw [← Bytes.length_toList, Bytes.toList_ofList]
  rw [isIn, Bytes.holdsAt_iff, hsize, Bytes.toList_ofList]
  rfl

theorem Signature.Marks.stop_le {s : Signature} {content : Bytes} (h : s.Marks content) :
    s.stop ≤ content.size := by
  obtain ⟨before, after, hbefore, hcontent⟩ := h
  rw [← Bytes.length_toList, hcontent, stop]
  simp only [List.length_append, hbefore]
  omega

theorem Signature.isIn_iff {s : Signature} (hs : s.bytes ≠ []) (content : Bytes) :
    s.isIn content = true ↔ s.Marks content := by
  rw [isIn_iff_slice]
  constructor
  · intro h
    have hlength := congrArg List.length h
    have hpos : 0 < s.bytes.length := List.length_pos_iff.mpr hs
    simp only [List.length_drop, List.length_take, stop] at hlength
    refine ⟨content.toList.take s.position, content.toList.drop s.stop, ?_, ?_⟩
    · rw [List.length_take]
      omega
    · rw [← h, stop, List.drop_take, Nat.add_sub_cancel_left, ← List.take_add, List.take_append_drop]
  · rintro ⟨before, after, hbefore, hcontent⟩
    have hstop : s.stop = (before ++ s.bytes).length := by rw [List.length_append, hbefore, stop]
    rw [hcontent, hstop, List.take_left, ← hbefore, List.drop_left]

theorem Signature.isIn_congr {s : Signature} {n : Nat} (hstop : s.stop ≤ n) {content other : Bytes}
    (h : other.toList.take n = content.toList.take n) : s.isIn other = s.isIn content := by
  have hhead (b : Bytes) : b.toList.take s.stop = (b.toList.take n).take s.stop := by
    rw [List.take_take, Nat.min_eq_left hstop]
  rw [Bool.eq_iff_iff, isIn_iff_slice, isIn_iff_slice, hhead other, hhead content, h]

theorem stop_le_of_mem : ∀ s ∈ signatures, s.stop ≤ 262 := by decide

theorem isIn_iff_of_mem {s : Signature} (hs : s ∈ signatures) (content : Bytes) :
    s.isIn content = true ↔ s.Marks content := by
  have hbytes : ∀ t ∈ signatures, t.bytes ≠ [] := by decide
  exact Signature.isIn_iff (hbytes s hs) content

/-! ## The first signature -/

theorem ofSignature_congr {n : Nat} (hn : 262 ≤ n) {content other : Bytes}
    (h : other.toList.take n = content.toList.take n) : ofSignature other = ofSignature content := by
  have hsame : ∀ s ∈ signatures, s.isIn other = s.isIn content := fun s hs =>
    Signature.isIn_congr (Nat.le_trans (stop_le_of_mem s hs) hn) h
  rw [ofSignature, ofSignature, List.find?_congr hsame]

/-- The signature `s` is the first of the known ones that stand in the content. -/
def FirstMark (content : Bytes) (s : Signature) : Prop :=
  ∃ before after, signatures = before ++ s :: after ∧ s.Marks content ∧ ∀ t ∈ before, ¬t.Marks content

theorem find?_eq_some {content : Bytes} {s : Signature} :
    signatures.find? (·.isIn content) = some s ↔ FirstMark content s := by
  have hmarks {t : Signature} (ht : t ∈ signatures) := isIn_iff_of_mem ht content
  rw [List.find?_eq_some_iff_append]
  constructor
  · rintro ⟨hs, before, after, htable, hbefore⟩
    have hmem : s ∈ signatures := htable ▸ List.mem_append_right before (.head after)
    refine ⟨before, after, htable, (hmarks hmem).mp hs, fun t ht hmark => ?_⟩
    have hin := (hmarks (htable ▸ List.mem_append_left _ ht)).mpr hmark
    exact absurd (hbefore t ht) (by simp [hin])
  · rintro ⟨before, after, htable, hs, hbefore⟩
    have hmem : s ∈ signatures := htable ▸ List.mem_append_right before (.head after)
    refine ⟨(hmarks hmem).mpr hs, before, after, htable, fun t ht => ?_⟩
    have hout := mt (hmarks (htable ▸ List.mem_append_left _ ht)).mp (hbefore t ht)
    simpa using hout

theorem ofSignature_eq_some {content : Bytes} {type : String} :
    ofSignature content = some type ↔ ∃ s, FirstMark content s ∧ s.type = type := by
  rw [ofSignature, Option.map_eq_some_iff]
  simp only [find?_eq_some]

theorem ofSignature_eq_none {content : Bytes} :
    ofSignature content = none ↔ ∀ s ∈ signatures, ¬s.Marks content := by
  rw [ofSignature, Option.map_eq_none_iff, List.find?_eq_none]
  exact forall₂_congr fun s hs => not_congr (isIn_iff_of_mem hs content)

/-! ## Content and name -/

/-- What content and name say together. -/
structure Says (names : NameTypes) (content : Bytes) (name : Option String) (type : String) : Prop where
  marked : ∀ s, FirstMark content s → s.type ≠ zip → type = s.type
  /-- Of an archive the name may say more. -/
  archive : ∀ s, FirstMark content s → s.type = zip → type = (guess names name).getD zip
  unmarked : (∀ s ∈ signatures, ¬s.Marks content) → type = (guess names name).getD fallback

theorem detect_eq (names : NameTypes) (head : Bytes) (name : Option String) :
    detect names head name =
      match ofSignature head with
      | some type => if type = zip then (guess names name).getD zip else type
      | none => (guess names name).getD fallback := by
  rw [detect]
  cases ofSignature head with
  | none => cases guess names name <;> rfl
  | some type =>
    by_cases hzip : type = zip
    · subst hzip
      cases guess names name <;> simp
    · cases guess names name <;> simp [hzip]

theorem detect_says (names : NameTypes) (content : Bytes) (name : Option String) :
    Says names content name (detect names content name) where
  marked s hs hzip := by
    rw [detect_eq, ofSignature_eq_some.mpr ⟨s, hs, rfl⟩]
    exact if_neg hzip
  archive s hs hzip := by
    rw [detect_eq, ofSignature_eq_some.mpr ⟨s, hs, rfl⟩]
    exact if_pos hzip
  unmarked h := by rw [detect_eq, ofSignature_eq_none.mpr h]

/-- A name suggests a type if neither of them is empty. -/
theorem guess_eq_some {names : NameTypes} {name : Option String} {type : String} :
    guess names name = some type ↔ type ≠ "" ∧ ∃ n, name = some n ∧ n ≠ "" ∧ names n = some type := by
  rw [guess, Option.filter_eq_some_iff, Option.bind_eq_some_iff, bne_iff_ne, and_comm]
  simp only [Option.filter_eq_some_iff, bne_iff_ne, and_assoc]

/-- **The head of a file tells its type.** A file has the type of its whole content, which hangs on the
first 262 bytes alone; a signature counts only where it stands in full, and the first one that does decides,
up to the archives, of which the name may say more. -/
theorem head_tells (names : NameTypes) (content : Bytes) (name : Option String) :
    ofFile names content name = detect names content name ∧
      (∀ other : Bytes, other.toList.take 262 = content.toList.take 262 →
        detect names other name = detect names content name) ∧
      (∀ type, ofSignature content = some type ↔ ∃ s, FirstMark content s ∧ s.type = type) ∧
      (∀ s ∈ signatures, content.size < s.stop → s.isIn content = false) ∧
      (∀ type, guess names name = some type ↔
        type ≠ "" ∧ ∃ n, name = some n ∧ n ≠ "" ∧ names n = some type) ∧
      Says names content name (detect names content name) := by
  have hsame {n : Nat} (hn : 262 ≤ n) {other : Bytes}
      (h : other.toList.take n = content.toList.take n) :
      detect names other name = detect names content name := by
    rw [detect, detect, ofSignature_congr hn h]
  refine ⟨hsame (n := headSize) (by decide) ?_, fun _ => hsame (Nat.le_refl _), fun _ => ofSignature_eq_some,
    fun s hs hshort => ?_, fun _ => guess_eq_some, detect_says names content name⟩
  · rw [Bytes.toList_take, List.take_take, Nat.min_self]
  · by_contra hin
    have hmarks := (isIn_iff_of_mem hs content).mp (Bool.eq_true_of_not_eq_false hin)
    exact absurd hmarks.stop_le (Nat.not_le.mpr hshort)

/-- The beginning of a zip archive, with the words of two other formats in their places. -/
def markedArchive : Bytes :=
  .ofList ([0x50, 0x4B, 0x03, 0x04, 0, 0, 0, 0, 0x57, 0x45, 0x42, 0x50] ++ List.replicate 245 0 ++
    [0x75, 0x73, 0x74, 0x61, 0x72])

theorem head_tells_of_marked_archive :
    let names : NameTypes := fun name => if name = "a.docx" then some "application/word" else none
    let tar : Bytes := .ofList (0 :: markedArchive.toList.tail.set 7 0)
    ofFile names markedArchive (some "a.docx") = "application/word" ∧
      ofFile names markedArchive none = zip ∧
      detect names (markedArchive ++ tar) (some "a.docx") = "application/word" ∧
      ofFile names tar (some "a.docx") = "application/x-tar" ∧
      ofFile names (tar.take 261) (some "a.docx") = "application/word" := by
  intro names tar
  have hzip : ofSignature markedArchive = some zip := by decide +kernel
  have htar : ofSignature tar = some "application/x-tar" := by decide +kernel
  have hnone : ofSignature (tar.take 261) = none := by decide +kernel
  obtain ⟨s, hs, hsmark⟩ := ofSignature_eq_some.mp hzip
  obtain ⟨t, ht, htmark⟩ := ofSignature_eq_some.mp htar
  obtain ⟨hfile, hhead, -, -, -, htold⟩ := head_tells names markedArchive (some "a.docx")
  obtain ⟨hfile', -, -, -, -, htold'⟩ := head_tells names markedArchive none
  obtain ⟨hfileTar, -, -, -, -, htoldTar⟩ := head_tells names tar (some "a.docx")
  obtain ⟨hfileCut, -, -, -, -, htoldCut⟩ := head_tells names (tar.take 261) (some "a.docx")
  refine ⟨hfile.trans (htold.archive s hs hsmark), hfile'.trans (htold'.archive s hs hsmark),
    (hhead _ (by decide +kernel)).trans (htold.archive s hs hsmark), ?_, ?_⟩
  · exact hfileTar.trans ((htoldTar.marked t ht (by rw [htmark]; decide)).trans htmark)
  · exact hfileCut.trans (htoldCut.unmarked (ofSignature_eq_none.mp hnone))

end ContentType
end ObjectChannel
