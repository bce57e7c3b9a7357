/-
What the library writes to the log, one constructor for each occasion.
-/
import ObjectChannel.Failure
import ObjectChannel.Log.Record

namespace ObjectChannel.Log

inductive Event where
  | beginningUpload (object : ObjectId)
  | uploadingPart (number length : Nat) (object : ObjectId)
  | uploadedPart (number : Int) (length : Nat) (object : ObjectId) (tag : String)
  | completingUpload (object : ObjectId) (parts : Nat)
  | completedUpload (object : ObjectId) (parts : Nat)
  | abortingUpload (uploadId : String) (object : ObjectId)
  | abortFailed (uploadId : String) (object : ObjectId) (reason : Failure)
  | readingRange (start stop : Nat) (object : ObjectId)
  | mirroring (object : ObjectId) (path : String)
  | synchronisingInParallel (size : Nat) (object : ObjectId) (workers : Int)
  | synchronising (size : Nat) (object : ObjectId)
  | uploadingFile (path : String) (object : ObjectId) (workers : Int)
  | serviceReady (bucket backend : String)
  | metricsExposed (socket : Int)
  deriving Inhabited

namespace Event

def writerLog : String := "s3channels.channels.multipart_writer"
def readerLog : String := "s3channels.channels.range_reader"
def mirrorLog : String := "s3channels.channels.mirrored"
def clientLog : String := "s3channels.infra.storage.s3_client"
def startupLog : String := "s3channels.startup"

def level : Event → Level
  | .abortFailed .. => .warning
  | .serviceReady .. | .metricsExposed .. => .info
  | _ => .debug

def logger : Event → String
  | .beginningUpload .. | .uploadingPart .. | .uploadedPart .. | .completingUpload ..
  | .completedUpload .. | .abortingUpload .. | .abortFailed .. => writerLog
  | .readingRange .. => readerLog
  | .mirroring .. | .synchronisingInParallel .. | .synchronising .. => mirrorLog
  | .uploadingFile .. => clientLog
  | .serviceReady .. | .metricsExposed .. => startupLog

def message : Event → String
  | .beginningUpload o => "Initiating multipart upload for " ++ o.uri
  | .uploadingPart n len o =>
    s!"Uploading part {n} with length {len} for " ++ o.uri
  | .uploadedPart n len o tag =>
    s!"Uploaded part {n} with length {len} for " ++ o.uri ++ ": " ++ tag
  | .completingUpload o n => "Completing upload to " ++ o.uri ++ s!" consisting of {n} parts"
  | .completedUpload o n => "Completed upload to " ++ o.uri ++ s!" consisting of {n} parts"
  | .abortingUpload u o => "Aborting multipart upload " ++ u ++ " for " ++ o.uri
  | .abortFailed u _ reason => "Failed to abort multipart upload " ++ u ++ ": " ++ reason.text
  | .readingRange i j o => s!"Range GET [{i}, {j}) of " ++ o.uri
  | .mirroring o path => "Mirroring " ++ o.uri ++ " into " ++ path
  | .synchronisingInParallel n o w =>
    s!"Synchronising {n} bytes to " ++ o.uri ++ s!" with {w} workers"
  | .synchronising n o => s!"Synchronising {n} bytes to " ++ o.uri ++ " with a single PUT"
  | .uploadingFile path o w =>
    "Parallel upload of " ++ path ++ " to " ++ o.uri ++ s!" with {w} workers"
  | .serviceReady bucket backend =>
    "Channel service ready for bucket " ++ bucket ++ " (" ++ backend ++ ")"
  | .metricsExposed socket => s!"Metrics exposed on port {socket}"

/-- A failed abort names the object and the upload in entries of their own. -/
def extra : Event → List (String × Value)
  | .abortFailed u o _ => [("object", .text o.uri), ("upload_id", .text u)]
  | _ => []

def record (e : Event) : Record :=
  { level := e.level, logger := e.logger, message := e.message, extra := e.extra }

end Event
end ObjectChannel.Log
