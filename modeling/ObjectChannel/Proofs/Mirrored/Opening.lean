/-
Opening a mirrored channel. What is fetched is what the store holds, whatever chunks the stream
delivers it in; and where the store delivers, opening goes well.
-/
import ObjectChannel.Proofs.Mirrored.Move
import ObjectChannel.Proofs.View

namespace ObjectChannel

/-- What a mirror that is opened for an object starts with: nothing where it is to be emptied. -/
def Holdings.original (h : Holdings) (o : ObjectId) (os : OpenOptions) : Bytes :=
  if os.has .truncateExisting then .empty else ((h.object o).map (·.data)).getD .empty

namespace Mirrored

open ChannelAction

variable {σ τ : Type} {b : Backend σ τ} {V : b.View} {limits : Limits} {o : ObjectId}

/-- Copying a whole stream comes to an end, with all that is left in the stream. -/
theorem copyStream_of_isWhole {left : τ → Bytes} {IsWhole : τ → Prop}
    (hb : b.WholeStreams left IsWhole) {chunk : Nat} (hchunk : 0 < chunk) {t : τ} (h : IsWhole t)
    (got : Bytes) :
    ∃ t', b.copyStream chunk t got = some (.ok (got ++ left t), t') ∧ IsWhole t' := by
  -- what is left gets less with every chunk that is not empty
  induction hn : (left t).size using Nat.strongRecOn generalizing t got with
  | _ n ih =>
    obtain ⟨data, t', hread, hwhole, hleft, -, hend⟩ := hb.read h hchunk
    rw [Backend.copyStream, hread]
    by_cases hdata : data.size = 0
    · have hempty : data.isEmpty = true := Bytes.isEmpty_iff.mpr hdata
      have hnone : left t = .empty := ByteArray.size_eq_zero_iff.mp (hend hdata)
      simp only [hempty, ite_true, hnone, ByteArray.append_empty]
      exact ⟨t', rfl, hwhole⟩
    · have hempty : data.isEmpty = false := Bytes.isEmpty_eq_false hdata
      have hless : (left t').size < n := by
        rw [← hn, hleft, ByteArray.size_append]
        omega
      obtain ⟨t'', hcopy, hwhole'⟩ := ih _ hless hwhole (got ++ data) rfl
      simp only [hempty, Bool.false_eq_true, ite_false, hcopy, hleft, ByteArray.append_assoc]
      exact ⟨t'', rfl, hwhole'⟩

/-- A probe that goes well changes nothing. It finds what there is, unless nothing is asked for. -/
theorem ProbeMove.found {os : OpenOptions} {es : List (Exchange τ)} {found : Bool} {s s' : σ}
    (h : ProbeMove o os es (.ok found)) (hr : b.Runs s es s') (V : b.View) :
    V.holds s' = V.holds s ∧ (found = true → ((V.holds s).object o).isSome = true) ∧
      (V.holds s).original o os =
        if found then (((V.holds s).object o).map (·.data)).getD .empty else .empty := by
  generalize hv : Except.ok found = r at h
  cases h with
  | unasked ht =>
    cases hv
    cases hr
    exact ⟨rfl, fun h => absurd h Bool.false_ne_true, if_pos ht⟩
  | failed => cases hv
  | answered ht x =>
    obtain rfl := verdict_eq_ok hv.symm
    cases hr with
    | call hc rest =>
      cases rest
      have hfound := V.found_head hc
      refine ⟨V.call_ok (r := .head o) trivial hc, hfound.symm.trans, ?_⟩
      simp only [Holdings.original, ht, Bool.false_eq_true, ite_false]
      cases hx : (V.holds s).object o <;> simp [hx, hfound]

/-! ## Opening only looks -/

theorem ProbeMove.looks {os : OpenOptions} {es : List (Exchange τ)} {r : Except Failure Bool}
    (h : ProbeMove o os es r) : ∀ x ∈ es, x.isLook = true := by
  intro x hx
  cases h with
  | unasked => cases hx
  | answered | failed =>
    rw [List.mem_singleton.mp hx]
    rfl

theorem FetchMove.looks {chunk : Nat} {es : List (Exchange τ)} {r : Except Failure Bytes}
    (h : FetchMove b chunk o es r) : ∀ x ∈ es, x.isLook = true := by
  intro x hx
  cases h with
  | refused | endless =>
    rw [List.mem_singleton.mp hx]
    rfl
  | copied =>
    rcases List.mem_cons.mp hx with rfl | hx
    · rfl
    · rw [List.mem_singleton.mp hx]
      rfl

theorem OpenMove.looks {q : OpenRequest} {M M' : Mirrors} {es : List (Exchange τ)}
    {r : Except Failure Mirrored} (h : OpenMove b limits o q M es r M') :
    ∀ x ∈ es, x.isLook = true := by
  cases h with
  | badOptions => exact List.forall_mem_nil _
  | unfit _ probe | noDirectory _ probe | made _ probe => exact probe.looks
  | fetched _ probe _ fetch | notFetched _ probe _ fetch =>
    intro x hx
    exact (List.mem_append.mp hx).elim (probe.looks x) (fetch.looks x)

/-! ## What is fetched -/

/-- Copying a stream that gives all of its bytes brings all that was left in it, unless it fails. -/
theorem copyStream_gives {honest : τ → Prop} (hV : V.GivesAll honest) {chunk : Nat}
    (hchunk : 0 < chunk) {t t' : τ} {got content : Bytes} (ht : honest t)
    (h : b.copyStream chunk t got = some (.ok content, t')) : content = got ++ V.left t := by
  refine Backend.copyStream.partial_correctness b chunk
    (fun t got r => honest t → ∀ content, r.1 = .ok content → content = got ++ V.left t) ?_
    t got _ h ht content rfl
  intro rest ih t got r h ht content hr
  cases hread : b.read t (some chunk) with
  | error e =>
    rw [hread] at h
    cases h
    cases hr
  | ok a =>
    obtain ⟨data, t'⟩ := a
    obtain ⟨ht', hleft, hend⟩ := hV.read ht hchunk hread
    rw [hread] at h
    by_cases hdata : data.size = 0
    · have hempty : data.isEmpty = true := Bytes.isEmpty_iff.mpr hdata
      simp only [hempty, ite_true] at h
      cases h
      cases hr
      rw [ByteArray.size_eq_zero_iff.mp (hend hdata), ByteArray.append_empty]
    · have hempty : data.isEmpty = false := Bytes.isEmpty_eq_false hdata
      simp only [hempty, Bool.false_eq_true, ite_false] at h
      rw [ih _ _ _ h ht' content hr, hleft, ByteArray.append_assoc]

/-- So does a download that goes well. -/
theorem FetchMove.gives {honest : τ → Prop} (hV : V.GivesAll honest) {es : List (Exchange τ)}
    {content : Bytes} {s s' : σ} (h : FetchMove b limits.downloadChunk o es (.ok content))
    (hr : b.Runs s es s') : ∃ x, (V.holds s).object o = some x ∧ content = x.data := by
  generalize hv : Except.ok content = r at h
  cases h with
  | refused | endless => cases hv
  | @copied t t' copy hcopy closed =>
    cases hr with
    | call hc rest =>
      obtain ⟨x, hx, hleft⟩ := V.get_ok hc
      have hleft : V.left t = x.data := hleft
      cases closed with
      | error e => cases hv
      | ok u =>
        cases copy with
        | error e => cases hv
        | ok copied =>
          cases hv
          refine ⟨x, hx, ?_⟩
          rw [copyStream_gives hV limits.downloadChunk_pos (hV.get hc) hcopy, hleft,
            ByteArray.empty_append]

/-- A download with a whole stream brings what the store holds, unless the request is refused. -/
theorem FetchMove.content {es : List (Exchange τ)} {r : Except Failure Bytes} {s s' : σ}
    (h : FetchMove b limits.downloadChunk o es r) (hr : b.Runs s es s')
    (hwhole : ∀ ⦃s t s'⦄, b.call (.get o none) s = (.ok t, s') → V.IsWhole t) :
    V.holds s' = V.holds s ∧
      ((∃ x, (V.holds s).object o = some x ∧ r = .ok x.data) ∨
        ∃ e, es = [.call (.get o none) (.error e)] ∧ r = .error (e.raisedIn .download o)) := by
  cases h with
  | refused e =>
    cases hr with
    | call hc rest =>
      cases rest
      exact ⟨V.holds_get hc, .inr ⟨e, rfl, rfl⟩⟩
  | @endless t hcopy =>
    cases hr with
    | call hc rest =>
      obtain ⟨t', hcopy', -⟩ :=
        copyStream_of_isWhole V.wholeStreams limits.downloadChunk_pos (hwhole hc) .empty
      rw [hcopy] at hcopy'
      cases hcopy'
  | @copied t t' copy hcopy closed =>
    cases hr with
    | call hc rest =>
      cases rest with
      | closing hclose rest =>
        cases rest
        obtain ⟨x, hx, hleft⟩ := V.get_ok hc
        obtain ⟨t'', hcopy', hwhole'⟩ :=
          copyStream_of_isWhole V.wholeStreams limits.downloadChunk_pos (hwhole hc) .empty
        rw [hcopy', ByteArray.empty_append, hleft] at hcopy
        cases hcopy
        obtain rfl : closed = .ok () :=
          (congrArg Prod.fst hclose).symm.trans (V.close_whole _ hwhole')
        exact ⟨(V.holds_close hclose).trans (V.holds_get hc), .inl ⟨x, hx, rfl⟩⟩

/-- A channel that was opened has the original content of the object in its mirror, if downloads bring
that; the mirror file is there, and the store holds what it held before. -/
theorem open_ok_of_fetch {q : OpenRequest} {os : OpenOptions} {m : Mirrored} {W W' : World σ}
    (h : Mirrored.open b limits o q W = (.ok m, W')) (hos : OpenOptions.ofGiven q.options = .ok os)
    (hfetch : ∀ ⦃es content s s'⦄, FetchMove b limits.downloadChunk o es (.ok content) →
      b.Runs s es s' → ∃ x, (V.holds s).object o = some x ∧ content = x.data) :
    m = ofContent o q os (W.mirrors.fresh q.directory) ((V.holds W.store).original o os) ∧
      W'.mirrors = W.mirrors.create q.directory ∧ V.holds W'.store = V.holds W.store := by
  obtain ⟨es, hm, hrun⟩ := open_move h
  have hholds := V.holds_of_looks hrun hm.looks
  generalize hv : Except.ok m = r, W'.mirrors = M at hm ⊢
  cases hm with
  | badOptions | unfit | noDirectory | notFetched => cases hv
  | made hos' probe hd =>
    cases hv
    obtain rfl := Except.ok.inj (hos.symm.trans hos')
    obtain ⟨-, -, horiginal⟩ := probe.found hrun V
    rw [horiginal]
    exact ⟨rfl, rfl, hholds⟩
  | fetched hos' probe hd fetch =>
    cases hv
    obtain rfl := Except.ok.inj (hos.symm.trans hos')
    obtain ⟨s, hrun, hrun'⟩ := hrun.of_append
    obtain ⟨hprobe, -, horiginal⟩ := probe.found hrun V
    obtain ⟨x, hx, rfl⟩ := hfetch fetch hrun'
    rw [horiginal, ← hprobe, hx]
    exact ⟨rfl, rfl, hholds.trans hprobe.symm⟩

/-- Opening goes well where the directory for the mirror is there, the options fit what a probe
finds, and the store delivers. -/
theorem open_of_existing {q : OpenRequest} {os : OpenOptions} {found : Bool} {W W₁ : World σ}
    (hV : V.Delivers o) (hos : OpenOptions.ofGiven q.options = .ok os)
    (hprobe : existing b o os W = (.ok found, W₁))
    (hd : q.directory.all W.mirrors.hasDirectory = true) :
    ∃ m W', Mirrored.open b limits o q W = (.ok m, W') := by
  obtain ⟨es, hm, hrun, hmirrors⟩ := existing_move hprobe
  obtain ⟨hholds, hsome, -⟩ := hm.found hrun V
  simp only [Mirrored.open, Action.bind_apply, Action.ofExcept_apply, hos, hprobe,
    World.createMirror, hmirrors, hd, ite_true, Action.onFailure_apply]
  cases found with
  | false => exact ⟨_, _, rfl⟩
  | true =>
    obtain ⟨x, hx⟩ := Option.isSome_iff_exists.mp (hsome rfl)
    generalize hW₂ : World.mk _ _ _ _ _ = W₂
    have hstore : W₂.store = W₁.store := by rw [← hW₂]
    rcases hf : download b limits o ⟨W.mirrors.next, q.directory⟩ W₂ with ⟨r, W₃⟩
    obtain ⟨es', hfetch, hrun', -⟩ := download_move hf
    obtain ⟨-, ⟨x', -, rfl⟩ | ⟨e, rfl, -⟩⟩ :=
      hfetch.content hrun' fun _ _ _ => Backend.View.isWhole_of_delivers hV
    · simp only [hf, ite_true]
      exact ⟨_, _, rfl⟩
    · cases hrun' with
      | call hc rest =>
        rw [← hholds, ← hstore] at hx
        obtain ⟨t, ht, -⟩ := hV hx none
        rw [hc] at ht
        cases ht

end Mirrored

end ObjectChannel
