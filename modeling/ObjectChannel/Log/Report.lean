/-
How a log record reports a failure: in one line, with the failure's kind and its message. The
package's own kinds of failure are shown with the part of the package that they belong to.
-/
import ObjectChannel.Failure

namespace ObjectChannel.Log

/-- The part of the package that a kind of failure belongs to. -/
def home? (kind : String) : Option String :=
  if kind = "StorageError" then some "s3channels.infra.storage.client"
  else if kind = "ServiceConfigurationError" then some "s3channels.services.channel_service"
  else if kind = "ChannelError" || (FailureKind.ofName? kind).isSome then
    some "s3channels.common.errors"
  else if kind = "UnsupportedOperation" then some "io"
  else if kind = "CancelledError" then some "concurrent.futures._base"
  else none

def qualified (kind : String) : String :=
  match home? kind with
  | some home => home ++ "." ++ kind
  | none => kind

/-- The line that reports a failure. A missing key is shown between quotation marks. -/
def failureLine (kind : String) (message : Option String) : String :=
  let shown := if kind = "KeyError" then message.elim "" Text.quoted else message.getD ""
  if shown = "" then qualified kind else qualified kind ++ ": " ++ shown

end ObjectChannel.Log
