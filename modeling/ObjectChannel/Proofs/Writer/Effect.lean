/-
What a writer does to the store, told from its account: objects stay as they are until the data are
published, which is the last thing that it asks for.
-/
import Mathlib.Data.List.Induction
import ObjectChannel.Proofs.View
import ObjectChannel.Proofs.Writer.Account

namespace ObjectChannel

variable {σ τ : Type}

/-! ## Parts in the store -/

/-- Every part has the number of its place, counted from 1 on. -/
def Numbered (sent : List SentPart) : Prop :=
  ∀ i (h : i < sent.length), sent[i].part.number = (i + 1 : Nat)

/-- Blocks by the numbers of their places. -/
def blockAt (blocks : List Bytes) (n : Int) : Option Bytes :=
  if 0 < n then blocks[n.toNat - 1]? else none

theorem blockAt_concat (blocks : List Bytes) (block : Bytes) (n : Int) :
    blockAt (blocks ++ [block]) n =
      if n = (blocks.length + 1 : Nat) then some block else blockAt blocks n := by
  unfold blockAt
  split
  · next h =>
    split
    · next hn =>
      subst hn
      simp
    · next hn =>
      by_cases hl : n.toNat - 1 < blocks.length
      · rw [List.getElem?_append_left hl]
      · rw [List.getElem?_eq_none (by simp; omega), List.getElem?_eq_none (by omega)]
  · next h => rw [if_neg (by omega)]

/-- Parts in the order of their numbers are assembled to the bytes that were sent. -/
theorem Assembly.assemble_of_numbered {sent : List SentPart} (hn : Numbered sent)
    (make : Bytes → StoredObject) :
    assemble ⟨make, blockAt (sent.map (·.block))⟩ (sent.map (·.part)) = sentBytes sent := by
  unfold assemble sentBytes
  congr 1
  apply List.ext_getElem (by simp)
  intro i hi _
  have hi : i < sent.length := by simpa using hi
  simp [hn i hi, blockAt, hi]

theorem Numbered.pairwise {sent : List SentPart} (hn : Numbered sent) :
    ((sent.map (·.part)).map (·.number)).Pairwise (· < ·) := by
  rw [List.pairwise_iff_getElem]
  intro i j hi hj hij
  simp only [List.length_map] at hi hj
  simp only [List.getElem_map, hn i hi, hn j hj]
  omega

/-- The parts that were sent are in their upload. -/
theorem uploadCalls_upload (keep : ObjectInfo → Bytes → StoredObject) (o : ObjectId)
    (info : ObjectInfo) (u : MultipartUpload) (sent : List SentPart) (h : Holdings) :
    ((uploadCalls (τ := τ) o info u sent).foldl (·.next keep) h).upload u.uploadId =
      some ⟨keep info, blockAt (sent.map (·.block))⟩ := by
  induction sent using List.reverseRecOn with
  | nil =>
    simp only [uploadCalls, partCalls_nil, List.foldl_cons, List.foldl_nil, Holdings.next,
      Holdings.after, Holdings.setUpload_self]
    congr 2
    funext n
    simp [blockAt]
  | append_singleton sent p ih =>
    rw [uploadCalls_concat, List.foldl_append]
    simp only [List.foldl_cons, List.foldl_nil, Holdings.next, Holdings.after, ih,
      Holdings.setUpload_self, Assembly.setPart]
    congr 2
    funext n
    simp [blockAt_concat]

theorem mem_partCalls {o : ObjectId} {id : String} {sent : List SentPart} {x : Exchange τ} :
    x ∈ partCalls o id sent ↔ ∃ i, ∃ h : i < sent.length,
      .call (.uploadPart o id (i + 1) sent[i].block sent[i].block.size sent[i].isLast)
        (.ok sent[i].part) = x := by
  simp [partCalls, List.mem_mapIdx]

theorem numbered_of_runs {b : Backend σ τ} (V : b.View) {s s' : σ} {es : List (Exchange τ)}
    (hr : b.Runs s es s') (o : ObjectId) (id : String) {sent : List SentPart}
    (h : ∀ x ∈ partCalls o id sent, x ∈ es) : Numbered sent := by
  intro i hi
  exact V.number_of_runs hr (h _ (mem_partCalls.mpr ⟨i, hi, rfl⟩))

/-- The requests of an upload are orderly, and change no object. -/
theorem uploadCalls_quiet {o : ObjectId} {info : ObjectInfo} {u : MultipartUpload}
    {sent : List SentPart} {x : Exchange τ} (hx : x ∈ uploadCalls o info u sent) :
    x.IsOrderly ∧ x.isQuiet := by
  rcases List.mem_cons.mp hx with rfl | hx
  · exact ⟨trivial, rfl⟩
  · obtain ⟨i, hi, rfl⟩ := mem_partCalls.mp hx
    exact ⟨rfl, rfl⟩

namespace Writer

/-! ## Objects -/

/-- What stops an upload changes no object. -/
theorem Stopped.quiet {o : ObjectId} {id : String} {es : List (Exchange τ)} (h : Stopped o id es)
    {x : Exchange τ} (hx : x ∈ es) : x.IsOrderly ∧ x.isQuiet := by
  cases h with
  | nothing => cases hx
  | part | complete => rw [List.mem_singleton.mp hx]; exact ⟨trivial, rfl⟩

/-- All but what publishes the data is orderly, and changes no object. -/
theorem Ended.quiet {limits : Limits} {o : ObjectId} {info : ObjectInfo}
    {log : List (Exchange τ)} {data : Bytes} {published : Bool}
    (h : Ended limits o info log data published) :
    ∃ es last, log = es ++ last ∧ (∀ x ∈ es, x.IsOrderly ∧ x.isQuiet) ∧
      if published then ∃ x, last = [x] else last = [] := by
  cases h with
  | unused => exact ⟨[], [], rfl, by simp, by simp⟩
  | notStored | notBegun =>
    refine ⟨_, [], (List.append_nil _).symm, ?_, by simp⟩
    intro x hx
    rw [List.mem_singleton.mp hx]
    exact ⟨trivial, rfl⟩
  | aborted u sent hs x =>
    refine ⟨_, [], (List.append_nil _).symm, ?_, by simp⟩
    intro y hy
    rcases List.mem_append.mp hy with hy | hy
    · rcases List.mem_append.mp hy with hy | hy
      · exact uploadCalls_quiet hy
      · exact hs.quiet hy
    · rw [List.mem_singleton.mp hy]
      cases x <;> exact ⟨trivial, rfl⟩
  | published parts hpub =>
    cases hpub with
    | stored => exact ⟨[], _, rfl, by simp, by simp⟩
    | completed => exact ⟨_, _, rfl, fun x hx => uploadCalls_quiet hx, by simp⟩

theorem Account.quiet {limits : Limits} {w : Writer} {log : List (Exchange τ)} {data : Bytes}
    {published : Bool} (h : Account limits w log data published) :
    ∃ es last, log = es ++ last ∧ (∀ x ∈ es, x.IsOrderly ∧ x.isQuiet) ∧
      if published then ∃ x, last = [x] else last = [] := by
  cases h with
  | underway hc hs parts =>
    refine ⟨log, [], (List.append_nil _).symm, ?_, by simp⟩
    cases hs with
    | nothing => simp
    | upload => exact fun x hx => uploadCalls_quiet hx
  | closed hc hend => exact hend.quiet

section

variable {b : Backend σ τ} (V : b.View) {limits : Limits} {w : Writer} {log : List (Exchange τ)}
  {data : Bytes} {published : Bool} {s s' : σ}

/-- Until the very end, and to the end if the data are not published, objects are as they were. -/
theorem Account.objects_before (h : Account limits w log data published) {es : List (Exchange τ)}
    (hes : es <+: log) (hne : published = true → es ≠ log) (hr : b.Runs s es s') :
    (V.holds s').object = (V.holds s).object := by
  obtain ⟨quiet, last, rfl, hq, hlast⟩ := h.quiet
  have hes : es <+: quiet := by
    cases published with
    | false => simpa [show last = [] from by simpa using hlast] using hes
    | true =>
      obtain ⟨x, rfl⟩ : ∃ x, last = [x] := by simpa using hlast
      rcases List.prefix_concat_iff.mp hes with he | he
      · exact absurd he (hne rfl)
      · exact he
  rw [V.holds_of_runs hr fun x hx => (hq x (hes.subset hx)).1]
  exact Holdings.foldl_object_of_isQuiet _ (fun x hx => (hq x (hes.subset hx)).2) _

/-- Once the data are published, they are the object, and the others are as they were. -/
theorem Account.objects_after (h : Account limits w log data true) (hr : b.Runs s log s') :
    (V.holds s').object = ((V.holds s).setObject w.object (some (V.keep w.info data))).object := by
  cases h with
  | closed hc hend =>
    cases hend with
    | @published pending sent _ parts hpub =>
      cases hpub with
      | stored x =>
        rw [V.holds_of_runs hr (by simp [Exchange.IsOrderly, Request.IsOrderly]), sentBytes_nil,
          ByteArray.empty_append]
        rfl
      | @completed u _ last hs hl =>
        have hn : Numbered (sent ++ last) := by
          refine numbered_of_runs V hr w.object u.uploadId fun x hx => ?_
          exact List.mem_append_left _ (.tail _ hx)
        have ho : ∀ x ∈ uploadCalls (τ := τ) w.object w.info u (sent ++ last) ++
            [.call (.completeUpload w.object u.uploadId ((sent ++ last).map (·.part))) (.ok ())],
            x.IsOrderly := by
          intro x hx
          rcases List.mem_append.mp hx with hx | hx
          · exact (uploadCalls_quiet hx).1
          · rw [List.mem_singleton.mp hx]
            exact hn.pairwise
        rw [V.holds_of_runs hr ho, List.foldl_append, ← hl.sentBytes_append parts hs]
        simp only [List.foldl_cons, List.foldl_nil, Holdings.next, Holdings.after,
          uploadCalls_upload, Assembly.assemble_of_numbered hn, Holdings.setObject]
        rw [Holdings.foldl_object_of_isQuiet _ fun x hx => (uploadCalls_quiet hx).2]

end

end Writer

end ObjectChannel
