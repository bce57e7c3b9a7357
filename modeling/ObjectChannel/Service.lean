/-
A service opens channels on the objects of one bucket, over one backend that all its channels share.
-/
import ObjectChannel.Channel.Operation
import ObjectChannel.S3.Client
import ObjectChannel.Settings.Basic

namespace ObjectChannel

structure Service (σ τ : Type) where
  settings : Settings
  bucket : String
  backend : Backend σ τ

namespace Service

variable {σ τ : Type}

/-- A text that is there and not empty. -/
def given (s : Option String) : Option String := s.filter (· != "")

/-- A service for the given bucket, or else for that of the settings. `reach` provides the
backend. -/
def create (settings : Settings) (bucket : Option String)
    (reach : Action (World σ) (Backend σ τ)) : Action (World σ) (Service σ τ) := do
  match (given bucket).or (given settings.bucket) with
  | none => Action.fail (.configuration .bucketMissing)
  | some bucket =>
    let backend ← reach
    World.log (.serviceReady bucket backend.name)
    return { settings, bucket, backend }

/-- Reaches the S3 service of the settings. An access key and its secret go together. -/
def reachS3 (settings : Settings) (plan : Store.Plan S3.Method S3.CannedReply)
    (streams : Store.StreamPlan) (nesting : Nat) :
    Action (World S3.Service) (Backend S3.Service (S3.Body Store.Stream)) := do
  if (given settings.accessKey).isSome != (given settings.secretKey).isSome then
    Action.fail (.configuration .keyWithoutSecret)
  else
    World.onStore (S3.Service.connect (S3.connectionOf settings))
    return S3.backend settings plan streams nesting

/-- The object of a key. Slashes at its start do not count, and something has to be left. -/
def objectId (s : Service σ τ) (key : String) : Except Failure ObjectId :=
  let key := key.toList.dropWhile (· == '/')
  if key.isEmpty then .error .emptyKey else .ok { bucket := s.bucket, key := .ofList key }

/-- Exposes the metrics, if they are enabled and it is said on which socket; tells whether. -/
def exposeMetrics (s : Service σ τ) : Action (World σ) Bool := do
  match s.settings.metricsSocket with
  | some socket =>
    if s.settings.metricsEnabled then
      Action.modify fun w => { w with sockets := w.sockets.push socket }
      World.log (.metricsExposed socket)
      return true
    else return false
  | none => return false

/-- A writer for the object of a key, in the storage class of the settings. -/
def openWriter (s : Service σ τ) (key : String) (contentType : Option String)
    (metadata : Metadata) : Except Failure Writer := do
  let object ← s.objectId key
  return {
    object
    info := { contentType, metadata, storageClass := s.settings.storageClass } }

def openReader (s : Service σ τ) (key : String) (position : Int) : Except Failure Reader := do
  Reader.opened (← s.objectId key) position

/-- A random-access channel for the object of a key, with its mirror where the settings say. -/
def openChannel (s : Service σ τ) (limits : Limits) (key : String) (r : OpenRequest) :
    Action (World σ) Mirrored := do
  let object ← Action.ofExcept (s.objectId key)
  Mirrored.open s.backend limits object
    { r with
      directory := s.settings.mirrorDirectory
      detects := s.settings.detectsContentType }

/-- Whether the object of a key is there. -/
def objectExists (s : Service σ τ) (key : String) : Action (World σ) Bool := do
  let object ← Action.ofExcept (s.objectId key)
  Mirrored.probe s.backend object

def delete (s : Service σ τ) (key : String) : Action (World σ) Unit := do
  let object ← Action.ofExcept (s.objectId key)
  let attempt : Action (World σ) Unit := World.request s.backend (.delete object)
  attempt.mapFailure (.transferFailed .delete object)

end Service
end ObjectChannel
