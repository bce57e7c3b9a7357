/-
Work with a service and many channels at a time, step by step. Channels have names; opening one under
a name that is taken puts the new one in the old one's place.
-/
import ObjectChannel.Service

namespace ObjectChannel

structure Session (σ : Type) where
  channels : Table Channel := Table.empty
  world : World σ

inductive Command where
  | openWriter (name key : String) (contentType : Option String) (metadata : Metadata)
  | openReader (name key : String) (position : Int)
  | openChannel (name key : String) (request : OpenRequest)
  | objectId (key : String)
  | objectExists (key : String)
  | delete (key : String)
  | exposeMetrics
  | bucket
  | backend
  /-- An operation on the channel of a name. -/
  | use (name : String) (op : Operation)
  deriving Inhabited

/-- The name of the channel that a command opens or uses. -/
def Command.channel? : Command → Option String
  | .openWriter name .. | .openReader name .. | .openChannel name .. | .use name _ => some name
  | _ => none

namespace Session

variable {σ τ α : Type}

def onWorld (x : Action (World σ) α) : Action (Session σ) α :=
  x.zoom (·.world) fun w s => { s with world := w }

/-- Opens a channel under a name. -/
def enlist (name : String) (x : Action (World σ) Channel) : Action (Session σ) Answer := do
  let c ← onWorld x
  Action.modify fun s => { s with channels := s.channels.insert name c }
  return .none

/-- An operation on the channel of a name. -/
def use (e : Channel.Setting σ τ) (name : String) (op : Operation) : Action (Session σ) Answer :=
  fun s =>
    match s.channels.get? name with
    | none => (.error .noChannel, s)
    | some c =>
      match Channel.perform e op (c, s.world) with
      | (r, (c, world)) => (r, { channels := s.channels.insert name c, world })

/-- What the channels of a service depend on. -/
def settingOf (service : Service σ τ) (limits : Limits) (names : ContentType.NameTypes) :
    Channel.Setting σ τ :=
  { backend := service.backend, limits, names }

/-- Carries out a command. -/
def perform (service : Service σ τ) (limits : Limits) (names : ContentType.NameTypes) :
    Command → Action (Session σ) Answer
  | .openWriter name key contentType metadata =>
    enlist name (.writer <$> Action.ofExcept (service.openWriter key contentType metadata))
  | .openReader name key position =>
    enlist name (.reader <$> Action.ofExcept (service.openReader key position))
  | .openChannel name key request =>
    enlist name (.mirrored <$> service.openChannel limits key request)
  | .objectId key => do return .text (← Action.ofExcept (service.objectId key)).uri
  | .objectExists key => do return .flag (← onWorld (service.objectExists key))
  | .delete key => do onWorld (service.delete key); return .none
  | .exposeMetrics => do return .flag (← onWorld service.exposeMetrics)
  | .bucket => return .text service.bucket
  | .backend => return .text service.backend.name
  | .use name op => use (settingOf service limits names) name op

end Session
end ObjectChannel
