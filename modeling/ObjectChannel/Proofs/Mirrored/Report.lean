/-
How a mirrored channel reports what goes wrong when it is opened and when it is closed; in between it
asks the store for nothing.
-/
import ObjectChannel.Proofs.Mirrored.Move
import ObjectChannel.Proofs.Report

namespace ObjectChannel.Mirrored

variable {σ τ : Type} {b : Backend σ τ} {limits : Limits} {o : ObjectId} {es : List (Exchange τ)}

theorem ProbeMove.reports {os : OpenOptions} {r : Except Failure Bool} (h : ProbeMove o os es r) :
    b.Reports limits es (failureOf r) := by
  cases h with
  | unasked => exact .nil
  | answered ht x => exact .answered rfl
  | failed ht e => exact .refused e .probe o rfl

theorem FetchMove.reports {r : Except Failure Bytes}
    (h : FetchMove b.recorded limits.downloadChunk o es r) : b.Reports limits es (failureOf r) := by
  cases h with
  | refused e => exact .refused e .download o rfl
  | @endless t hcopy =>
    have hbreaks (e : Failure) (h : b.Breaks (limits.asked none) 0 t e) : False := by
      obtain ⟨t', hcopied⟩ := h.recorded.copyStream .empty
      rw [hcopy] at hcopied
      cases hcopied
    refine .unbroken fun o range t e h => ?_
    cases h
    exact hbreaks e
  | @copied t t' copy hcopy closed =>
    refine .stream .download fun e h => ?_
    obtain ⟨t', hcopied⟩ := h.recorded.copyStream .empty
    rw [hcopy] at hcopied
    cases hcopied
    rfl

theorem OpenMove.reports {q : OpenRequest} {M M' : Mirrors} {r : Except Failure Mirrored}
    (h : OpenMove b.recorded limits o q M es r M') : b.Reports limits es (failureOf r) := by
  cases h with
  | badOptions => exact .nil
  | unfit hos probe => exact probe.reports
  | noDirectory hos probe => exact (show b.Reports limits _ none from probe.reports).harmless
  | made hos probe => exact probe.reports
  | fetched hos probe hd fetch =>
    exact (show b.Reports limits _ none from probe.reports).after fetch.reports
  | notFetched hos probe hd fetch =>
    exact (show b.Reports limits _ none from probe.reports).after fetch.reports

/-- A parallel upload that is stopped is reported as interrupted, by whatever means it is stopped. -/
theorem uploadFile_reports {path : String} {content : Bytes} {workers : Int} {info : ObjectInfo}
    (x : Except Failure Unit) :
    b.Reports limits [.call (.uploadFile o path content workers info) x]
      (failureOf (x.mapError (uploadFailed o))) := by
  cases x with
  | ok u => exact .answered rfl
  | error e =>
    refine ⟨fun htrouble he _ => ?_, fun hx he => ?_⟩
    · cases htrouble with
      | call hx hr =>
        cases List.mem_singleton.mp hx
        cases e <;> first | exact ⟨_, rfl, rfl⟩ | cases he
      | closing hx => nomatch List.mem_singleton.mp hx
      | reading hx => nomatch List.mem_singleton.mp hx
    · cases List.mem_singleton.mp hx
      cases e <;> first | rfl | cases he

theorem SyncMove.reports {names : ContentType.NameTypes} {c c' : Mirrored} {M : Mirrors}
    {r : Except Failure Unit} (h : SyncMove limits names c M es r c') :
    b.Reports limits es (failureOf r) := by
  cases h with
  | lost => exact .nil
  | stored => exact .answered rfl
  | notStored hm hs e => exact .refused e .put _ rfl
  | uploaded hm hs x => exact uploadFile_reports x

theorem CloseMove.reports {names : ContentType.NameTypes} {c c' : Mirrored} {M M' : Mirrors}
    {r : Except Failure Unit} (h : CloseMove limits names c M es r c' M') :
    b.Reports limits es (failureOf r) := by
  cases h with
  | again | unchanged => exact .nil
  | deleted hc hd x => exact .request (r := .delete _) x .delete _ rfl rfl
  | synced hc hd hr sync => exact sync.reports

end ObjectChannel.Mirrored
