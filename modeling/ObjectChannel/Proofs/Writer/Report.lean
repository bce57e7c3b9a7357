/-
How a writer reports what goes wrong: the failure of a request is the cause of what it raises, whether
or not the abort that follows passes too.
-/
import ObjectChannel.Proofs.Report
import ObjectChannel.Proofs.Writer.Account

namespace ObjectChannel.Writer

variable {σ τ : Type} {b : Backend σ τ} {limits : Limits} {w w' : Writer} {es : List (Exchange τ)}

/-- An abort has a say only where it is interrupted. -/
theorem AbortMove.reports {r : Except Failure Unit} (h : AbortMove w es r w') {failure : Option Failure}
    (hfailure : ∀ e, r = .error e → failure = some e) : b.Reports limits es failure := by
  cases h with
  | none => exact .nil
  | attempt hid x =>
    cases x with
    | ok u => exact .answered rfl
    | error e =>
      refine ⟨fun htrouble => ?_, fun hx he => ?_⟩
      · cases htrouble with
        | call hx hr =>
          cases List.mem_singleton.mp hx
          cases hr
        | closing hx => nomatch List.mem_singleton.mp hx
        | reading hx => nomatch List.mem_singleton.mp hx
      · cases List.mem_singleton.mp hx
        exact hfailure e (by rw [afterAbort, if_pos he])

/-- All that passes is the abort. -/
theorem AbortMove.eq_abort {r : Except Failure Unit} (h : AbortMove w es r w') {x : Exchange τ}
    (hx : x ∈ es) : ∃ id y, x = .call (.abortUpload w.object id) y := by
  cases h with
  | none => cases hx
  | attempt hid y => exact ⟨_, y, List.mem_singleton.mp hx⟩

/-- A request that fails, and the abort after it. -/
theorem AbortMove.reports_refused {a : Except Failure Unit} (h : AbortMove w es a w') {r : Request}
    {e : Failure} (he : e.isInterrupt = false) (hr : r.isUploadFile = false) (what : Transfer)
    (o : ObjectId) :
    b.Reports limits (.call r (.error e) :: es) (failureOf (raised a (.transferFailed what o e))) where
  ordinary := by
    intro request e' htrouble he' ho
    have ha : a = .ok () := h.outcome fun x hx => ho x (.tail _ hx)
    cases htrouble with
    | call hx hr' =>
      rcases List.mem_cons.mp hx with hx | hx
      · cases hx
        exact ⟨.transfer what o, by rw [ha]; rfl, (reportedKind_call hr e).symm⟩
      · obtain ⟨id, y, hy⟩ := h.eq_abort hx
        cases hy
        cases hr'
    | closing hx =>
      rcases List.mem_cons.mp hx with hx | hx
      · cases hx
      · obtain ⟨id, y, hy⟩ := h.eq_abort hx
        cases hy
    | reading hx =>
      rcases List.mem_cons.mp hx with hx | hx
      · cases hx
      · obtain ⟨id, y, hy⟩ := h.eq_abort hx
        cases hy
  interrupted := by
    intro r' e' hx he'
    rcases List.mem_cons.mp hx with hx | hx
    · cases hx
      simp [he] at he'
    · have hreports : b.Reports limits es (failureOf (raised a (.transferFailed what o e))) :=
        h.reports fun e' hae => by rw [hae]; rfl
      exact hreports.interrupted hx he'

theorem PartMove.reports {id : String} {block : Bytes} {isLast : Bool} {r : Except Failure Unit}
    (h : PartMove w id block isLast es r w') : b.Reports limits es (failureOf r) := by
  cases h with
  | taken p => exact .answered rfl
  | refused he abort => exact abort.reports_refused he rfl _ _
  | interrupted he => exact .stopped he rfl

theorem UploadMove.reports {block : Bytes} {isLast : Bool} {r : Except Failure Unit}
    (h : UploadMove w block isLast es r w') : b.Reports limits es (failureOf r) := by
  cases h with
  | further hid part => exact part.reports
  | first hid u part => exact (Backend.Reports.answered rfl).after part.reports
  | refused hid he =>
    rw [← Failure.raisedIn_of_ordinary he]
    exact .refused _ _ _ rfl
  | interrupted hid he => exact .stopped he rfl

theorem CompleteMove.reports {id : String} {r : Except Failure Unit}
    (h : CompleteMove w id es r w') : b.Reports limits es (failureOf r) := by
  cases h with
  | completed => exact .answered rfl
  | refused he abort => exact abort.reports_refused he rfl _ _
  | interrupted he => exact .stopped he rfl

theorem PublishMove.reports {r : Except Failure Unit} (h : PublishMove limits w es r w') :
    b.Reports limits es (failureOf r) := by
  cases h with
  | stored hid x => exact .answered rfl
  | notStored hid e => exact .refused e _ _ rfl
  | assembled hid hl complete => exact complete.reports
  | stopped hid hl upload => exact upload.reports
  | extended hid hl upload complete =>
    exact (show b.Reports limits _ none from upload.reports).after complete.reports

/-- **What goes wrong in an operation of a writer is what it reports.** -/
theorem Move.reports {op : Operation} {r : Except Failure Answer} (h : Move limits w op es r w') :
    b.Reports limits es (failureIn r) := by
  cases h with
  | write m =>
    rw [failureIn_map (fun n : Nat => Answer.count n) fun _ => rfl]
    cases m with
    | closed | notBytes | nothing | held => exact .nil
    | full hc hd hf abort =>
      exact abort.reports fun e he => by rw [he]; rfl
    | @sent data _ r _ hc hd hf hs upload =>
      have hr : failureOf (do r; .ok data.size : Except Failure Nat) = failureOf r := by
        cases r <;> rfl
      rw [hr]
      exact upload.reports
  | close hop m =>
    rw [failureIn_map (fun _ => Answer.none) fun _ => rfl]
    cases m with
    | again => exact .nil
    | published hc publish => exact publish.reports
  | discard hop m =>
    rw [failureIn_map (fun _ => Answer.none) fun _ => rfl]
    cases m with
    | again => exact .nil
    | dropped hc abort => exact abort.reports fun e he => by rw [he]; rfl
  | other => exact .nil

end ObjectChannel.Writer
