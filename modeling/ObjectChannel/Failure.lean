/-
What can go wrong, by cause. A failure names the rule that was broken; its wording is in
`Failure.text`, in one place. A failure may carry the failure that led to it.

Failures are of two sorts. An interrupt is not meant for any handler and passes through all of
them; everything else, a cancelled transfer included, is ordinary and may be handled.
-/
import ObjectChannel.Object

namespace ObjectChannel

/-- The category that callers of a channel branch on. -/
inductive FailureKind where
  | alreadyExists
  | notFound
  | alreadyClosed
  | partLimitExceeded
  | transferFailure
  | interruptedTransfer
  | unsupportedOperation
  deriving DecidableEq, Inhabited

/-- The general sorts of failure that a category belongs to. -/
inductive FailureFamily where
  | channel
  | system
  | fileExists
  | fileNotFound
  | unsupported
  | value
  | runtime
  deriving DecidableEq, Inhabited

namespace FailureKind

def code : FailureKind → String
  | .alreadyExists => "already_exists"
  | .notFound => "not_found"
  | .alreadyClosed => "already_closed"
  | .partLimitExceeded => "part_limit_exceeded"
  | .transferFailure => "transfer_failure"
  | .interruptedTransfer => "interrupted_transfer"
  | .unsupportedOperation => "unsupported_operation"

/-- The name that reports show. -/
def name : FailureKind → String
  | .alreadyExists => "AlreadyExistsError"
  | .notFound => "NotFoundError"
  | .alreadyClosed => "AlreadyClosedError"
  | .partLimitExceeded => "PartLimitExceededError"
  | .transferFailure => "TransferFailureError"
  | .interruptedTransfer => "InterruptedTransferError"
  | .unsupportedOperation => "UnsupportedChannelOperation"

def all : List FailureKind :=
  [.alreadyExists, .notFound, .alreadyClosed, .partLimitExceeded, .transferFailure,
    .interruptedTransfer, .unsupportedOperation]

def ofName? (s : String) : Option FailureKind := all.find? (·.name = s)

/-- Every channel failure is a system failure too. An existing or missing target also counts as
the matching file failure, and an unsupported operation as an unsupported one, which is in turn a
failure of the value given. -/
def families : FailureKind → List FailureFamily
  | .alreadyExists => [.channel, .system, .fileExists]
  | .notFound => [.channel, .system, .fileNotFound]
  | .unsupportedOperation => [.channel, .system, .unsupported, .value]
  | _ => [.channel, .system]

end FailureKind

/-- What a channel was doing when a transfer failed. -/
inductive Transfer where
  | beginUpload
  | uploadPart (number : Nat)
  | completeUpload
  | put
  | readRange
  | probe
  | download
  | delete
  | upload
  deriving DecidableEq, Inhabited

def Transfer.text : Transfer → String
  | .beginUpload => "initiate multipart upload for"
  | .uploadPart n => "upload part " ++ toString n ++ " for"
  | .completeUpload => "complete multipart upload for"
  | .put => "put data into"
  | .readRange => "read range of"
  | .probe => "probe"
  | .download => "download"
  | .delete => "delete"
  | .upload => "upload"

/-- The failures that channels raise themselves. -/
inductive ChannelFault where
  | closed (object : ObjectId)
  | partLimit (limit : Int) (object : ObjectId)
  | transfer (what : Transfer) (object : ObjectId)
  | interrupted (object : ObjectId)
  | targetExists (object : ObjectId)
  | targetMissing (object : ObjectId)
  | seekFromEnd
  | readOnly
  | sizeUnknown
  deriving DecidableEq, Inhabited

namespace ChannelFault

def kind : ChannelFault → FailureKind
  | .closed _ => .alreadyClosed
  | .partLimit .. => .partLimitExceeded
  | .transfer .. => .transferFailure
  | .interrupted _ => .interruptedTransfer
  | .targetExists _ => .alreadyExists
  | .targetMissing _ => .notFound
  | .seekFromEnd | .readOnly | .sizeUnknown => .unsupportedOperation

def text : ChannelFault → String
  | .closed o => "Already closed: " ++ o.uri
  | .partLimit n o =>
    "Maximum number of upload parts (" ++ toString n ++ ") reached for " ++ o.uri
  | .transfer what o => "Failed to " ++ what.text ++ " " ++ o.uri
  | .interrupted o => "Interrupted while uploading " ++ o.uri
  | .targetExists o => "target already exists: " ++ o.uri
  | .targetMissing o => "target does not exist: " ++ o.uri
  | .seekFromEnd => "seeking relative to the end requires the object size"
  | .readOnly => "range read channels are read-only"
  | .sizeUnknown => "object size is not available on range read channels"

end ChannelFault

/-- The failures of the local file system and of the clock. -/
inductive SystemFault where
  | missing
  | invalid
  | isDirectory
  | notDirectory
  | nameTooLong
  | tooLarge
  | overflow
  /-- A file has neither data nor a gap from there on. -/
  | nothingThere
  deriving DecidableEq, Inhabited

def SystemFault.text : SystemFault → String
  | .missing => "no such file or directory"
  | .invalid => "invalid argument"
  | .isDirectory => "is a directory"
  | .notDirectory => "not a directory"
  | .nameTooLong => "file name too long"
  | .tooLarge => "file too large"
  | .overflow => "value too large"
  | .nothingThere => "no such device or address"

/-- Why environment variables could not be set. -/
inductive EnvironmentFault where
  /-- A name or a value holds a NUL character, or a name an equals sign. -/
  | unusable
  /-- A name is empty. -/
  | nameless
  /-- The settings file is no UTF-8 text. -/
  | encoding
  deriving DecidableEq, Inhabited

def EnvironmentFault.text : EnvironmentFault → String
  | .unusable => "a variable cannot hold this"
  | .nameless => "a variable needs a name"
  | .encoding => "the settings file is not UTF-8"

/-- What a service lacks that it needs to reach a store. -/
inductive ConfigurationFault where
  | bucketMissing
  | keyWithoutSecret
  deriving DecidableEq, Inhabited

def ConfigurationFault.text : ConfigurationFault → String
  | .bucketMissing => "S3_BUCKET is required"
  | .keyWithoutSecret => "S3_ACCESS_KEY_ID and S3_SECRET_ACCESS_KEY must be set together"

inductive Failure where
  /-- A channel could not do what it was asked to. -/
  | channel (fault : ChannelFault) (cause : Option Failure)
  /-- A request to the storage backend failed. -/
  | storage (message : String) (cause : Option Failure)
  /-- The store refused a request, or a stream from it broke; `reply` is what it sent with it. -/
  | store (message : String) (reply : Option Value)
  | configuration (fault : ConfigurationFault)
  /-- The transfer was called off. -/
  | cancelled
  /-- The process was told to stop. -/
  | interrupted
  | negativePosition
  | emptyKey
  | environment (fault : EnvironmentFault)
  | addressingStyle
  /-- Where the addressing style belongs stands no text. -/
  | styleKind
  /-- There is no setting of the given name. -/
  | unknownSetting
  /-- What is given for a setting is not of its kind. -/
  | settingKind
  /-- Where the metrics are to be exposed is no number. -/
  | metricsSocket
  | logLevel
  /-- Where a log level belongs stands neither a name nor a number. -/
  | logLevelKind
  /-- A command has no text where the key of its object belongs. -/
  | keyMissing
  /-- A command has no text where the path of its file belongs. -/
  | pathMissing
  /-- A command has no number where one belongs. -/
  | numberMissing
  /-- A path holds a NUL character. -/
  | unusablePath
  /-- Where an open option belongs stands something else, which the message shows. -/
  | openOption (shown : String)
  /-- The given thing cannot be a member of a set. -/
  | notAMember
  /-- Where bytes belong stands something else. -/
  | notBytes
  /-- Where a number belongs stands something else; `text` is the complaint about it. -/
  | notANumber (text : String)
  /-- The given thing is of no kind that becomes a number; `text` is the complaint about it. -/
  | notNumeric (text : String)
  /-- Part numbers of different sorts have no order. -/
  | mixedOrder
  /-- A number does not fit a machine word. -/
  | outOfRange
  /-- A destination has fewer bytes than none. -/
  | negativeSize
  /-- A destination is larger than any memory. -/
  | noMemory
  /-- A transfer has no workers. -/
  | noWorkers
  /-- A number has more digits than are written. -/
  | tooManyDigits
  /-- A value is nested deeper than values are followed. -/
  | tooDeep
  /-- A stream delivered more than there is room for. -/
  | chunkTooLong
  /-- The file is not open for this. -/
  | fileMode
  | system (fault : SystemFault)
  /-- A reply has no fields. -/
  | replyShape
  /-- A reply is not made of named parts. -/
  | replyKind
  /-- A reply lacks a part. -/
  | replyField
  /-- A reply's fields are not a mapping. -/
  | replyMapping
  /-- A reply has something else where a pair belongs. -/
  | replyPair
  /-- The channel has no such operation. -/
  | noOperation
  /-- No channel has the given name. -/
  | noChannel
  /-- A read to the end comes to no end. -/
  | endless
  deriving Inhabited

namespace Failure

/-- Whether the failure is an interrupt, which no handler for ordinary failures takes. -/
def isInterrupt : Failure → Bool
  | .interrupted => true
  | _ => false

/-- The failure that led to this one. -/
def cause? : Failure → Option Failure
  | .channel _ c => c
  | .storage _ c => c
  | _ => none

/-- The wording. -/
def text : Failure → String
  | .channel f _ => f.text
  | .storage m _ => m
  | .store m _ => m
  | .configuration f => f.text
  | .cancelled => ""
  | .interrupted => ""
  | .negativePosition => "position must not be negative"
  | .emptyKey => "object key must not be empty"
  | .environment f => f.text
  | .addressingStyle => "S3_ADDRESSING_STYLE must be one of: path, virtual, auto"
  | .styleKind => "the addressing style must be a text"
  | .unknownSetting => "there is no such setting"
  | .settingKind => "this is no value for the setting"
  | .metricsSocket => "METRICS_PORT must be a number"
  | .logLevel => "unknown log level"
  | .logLevelKind => "a log level is a name or a number"
  | .keyMissing => "an object key is required"
  | .pathMissing => "a file path is required"
  | .numberMissing => "a number is required"
  | .unusablePath => "a path cannot hold this"
  | .openOption shown => "Unsupported open option: " ++ shown
  | .notAMember => "not usable as a member of a set"
  | .notBytes => "bytes are required"
  | .notANumber t => t
  | .notNumeric t => t
  | .mixedOrder => "texts and numbers have no common order"
  | .outOfRange => "number out of range"
  | .negativeSize => "a size must not be negative"
  | .noMemory => "out of memory"
  | .noWorkers => "a transfer needs a worker"
  | .tooManyDigits => "too many digits"
  | .tooDeep => "nested too deep"
  | .chunkTooLong => "more bytes than the destination has room for"
  | .fileMode => "file not open for this operation"
  | .system f => f.text
  | .replyShape => "the reply has no fields"
  | .replyKind => "the reply has no named parts"
  | .replyField => "the reply lacks a part"
  | .replyMapping => "the reply's fields are not a mapping"
  | .replyPair => "the reply's fields are not pairs"
  | .noOperation => "the channel has no such operation"
  | .noChannel => "no channel of this name is open"
  | .endless => "the read comes to no end"

/-- The failure to write a value. -/
def unwritable : Unwritable → Failure
  | .tooManyDigits => .tooManyDigits
  | .tooDeep => .tooDeep

/-- The failure of a backend request that `cause` brought down. -/
def requestFailed (activity : String) (cause : Failure) : Failure :=
  .storage ("Failed to " ++ activity ++ ": " ++ cause.text) (some cause)

/-- The failure of a channel's transfer that `cause` brought down. -/
def transferFailed (what : Transfer) (object : ObjectId) (cause : Failure) : Failure :=
  .channel (.transfer what object) (some cause)

/-- A channel failure with nothing behind it. -/
def ofChannel (fault : ChannelFault) : Failure := .channel fault none

end Failure

/-- The value as a message shows it, if it can be written. -/
def Value.shown (nesting : Nat) (v : Value) : Except Failure String :=
  (v.display nesting).mapError .unwritable

end ObjectChannel
