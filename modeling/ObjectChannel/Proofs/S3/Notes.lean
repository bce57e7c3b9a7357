/-
What the service notes: every request, once, whatever becomes of it, and that a stream was closed. Where
it is once it has noted something follows from the notes.
-/
import ObjectChannel.Proofs.Looks

namespace ObjectChannel.S3

/-- The object that a request is about. -/
def Request.object : Request → ObjectId
  | .putObject o .. | .getObject o _ | .headObject o | .deleteObject o | .createUpload o _ |
    .uploadPart o .. | .completeUpload o .. | .abortUpload o _ | .uploadFile o .. => o

/-- What a request that creates an object says about it. -/
def Request.params? : Request → Option WriteParams
  | .putObject _ _ _ p | .createUpload _ p | .uploadFile _ _ p _ => some p
  | _ => none

namespace Service

variable {plan : Store.Plan Method CannedReply} {streams : Store.StreamPlan}

/-- What the service does about something that it notes: it deals with a request, and of a stream that
is closed it keeps the note alone. -/
def after (plan : Store.Plan Method CannedReply) (streams : Store.StreamPlan) (s : Service) :
    Call → Service
  | .request q => (call plan streams q s).2
  | .closeStream n => s.note (.closeStream n)

theorem serve_keepsCalls (q : Request) : (serve streams q).Keeps (·.calls) := by
  have hchange {f : Store.Contents → Store.Contents} : (change f).Keeps (·.calls) := fun _ => rfl
  have hrefuse {code : String} : (refuse code : Action Service (Reply Store.Stream)).Keeps (·.calls) :=
    fun _ => rfl
  cases q with
  | putObject | createUpload => first
    | exact hchange.bind fun _ => Action.Keeps.get.bind fun _ => .pure _
    | exact Action.Keeps.get.bind fun _ => hchange.bind fun _ => .pure _
  | deleteObject | uploadFile => exact hchange.bind fun _ => .pure _
  | getObject o range =>
    refine Action.Keeps.get.bind fun s => ?_
    split
    · exact hrefuse
    · exact (Action.Keeps.ofExcept _).bind fun _ => Action.Keeps.bind (fun _ => rfl) fun _ => .pure _
  | headObject o =>
    refine Action.Keeps.get.bind fun s => ?_
    split
    · exact hrefuse
    · exact .pure _
  | uploadPart | abortUpload =>
    refine Action.Keeps.get.bind fun s => ?_
    split
    · exact hchange.bind fun _ => .pure _
    · exact hrefuse
  | completeUpload o id parts =>
    refine Action.Keeps.get.bind fun s => ?_
    split
    · exact hrefuse
    · split
      · exact hchange.bind fun _ => .pure _
      · exact hrefuse

/-- A request is noted, once. -/
theorem call_calls (q : Request) (s : Service) :
    (call plan streams q s).2.calls = s.calls.push (.request q) := by
  simp only [call, Action.bind_apply, Action.modify_apply, Action.get_apply]
  rcases plan q.method ((s.note (.request q)).methodCount q.method) with _ | _ | _
  · exact serve_keepsCalls q _
  · rfl
  · rfl

theorem after_calls (s : Service) (c : Call) : (s.after plan streams c).calls = s.calls.push c := by
  cases c with
  | closeStream => rfl
  | request q => exact call_calls q s

/-- The service after all that it has noted. -/
theorem foldl_after_calls (notes : List Call) (s : Service) :
    (notes.foldl (after plan streams) s).calls.toList = s.calls.toList ++ notes := by
  induction notes generalizing s with
  | nil => simp
  | cons c notes ih => simp [ih, after_calls]

end Service

end ObjectChannel.S3
