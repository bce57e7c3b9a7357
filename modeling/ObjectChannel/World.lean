/-
Everything that channels act on: the store behind the backend, the mirror files in the local file
system, the counters and the log.
-/
import ObjectChannel.Backend
import ObjectChannel.Metrics

namespace ObjectChannel

/-- A mirror file. It is known by its number; its content belongs to the channel that opened it. -/
structure Mirror where
  number : Nat
  /-- The directory that was asked for; the usual one where none was. -/
  directory : Option String
  deriving DecidableEq, Inhabited

/-- The directories for mirror files, and the files that are present in them. -/
structure Mirrors where
  present : List Mirror := []
  /-- The number of the next mirror. -/
  next : Nat := 0
  /-- The path of a mirror. -/
  path : Mirror → String := fun m => "mirror-" ++ toString m.number
  /-- Whether a directory for mirrors exists; the usual one does. -/
  hasDirectory : String → Bool := fun _ => true

structure World (σ : Type) where
  store : σ
  mirrors : Mirrors := {}
  metrics : Metrics := {}
  events : Array Log.Event := #[]
  /-- The sockets that metrics are exposed on, by number. -/
  sockets : Array Int := #[]

namespace World

variable {σ τ α : Type}

/-- An action on the store alone. -/
def onStore (x : Action σ α) : Action (World σ) α :=
  x.zoom (·.store) fun s w => { w with store := s }

/-- The world with an event in the log. -/
def logged (w : World σ) (e : Log.Event) : World σ := { w with events := w.events.push e }

/-- The world with its counters changed. -/
def counted (w : World σ) (f : Metrics → Metrics) : World σ := { w with metrics := f w.metrics }

def log (e : Log.Event) : Action (World σ) Unit := .modify (·.logged e)

def count (f : Metrics → Metrics) : Action (World σ) Unit := .modify (·.counted f)

/-- A request to the backend, with the remark it makes beforehand. -/
def request (b : Backend σ τ) (r : Request) : Action (World σ) (r.Reply τ) := do
  match b.remark r with
  | some e => log e
  | none => Action.pure ()
  onStore (b.call r)

/-- A new, empty mirror file in the given directory, which has to exist. -/
def createMirror (directory : Option String) : Action (World σ) Mirror := fun w =>
  if directory.all w.mirrors.hasDirectory then
    let m : Mirror := ⟨w.mirrors.next, directory⟩
    (.ok m, { w with
      mirrors := { w.mirrors with present := w.mirrors.present ++ [m], next := m.number + 1 } })
  else (.error (.system .missing), w)

/-- Removes a mirror file; one that is gone already is no failure. -/
def removeMirror (m : Mirror) : Action (World σ) Unit :=
  .modify fun w =>
    { w with mirrors := { w.mirrors with present := w.mirrors.present.filter (· != m) } }

/-- Whether a mirror file is present. -/
def hasMirror (w : World σ) (m : Mirror) : Bool := w.mirrors.present.contains m

/-- The world once a backend has answered a request, and made its remark on it. -/
def answered (w : World σ) (b : Backend σ τ) (r : Request) : World σ :=
  { (b.remark r).elim w w.logged with store := (b.call r w.store).2 }

@[simp] theorem logged_store (w : World σ) (e : Log.Event) : (w.logged e).store = w.store := rfl

@[simp] theorem logged_mirrors (w : World σ) (e : Log.Event) :
    (w.logged e).mirrors = w.mirrors := rfl

@[simp] theorem counted_store (w : World σ) (f : Metrics → Metrics) :
    (w.counted f).store = w.store := rfl

@[simp] theorem counted_mirrors (w : World σ) (f : Metrics → Metrics) :
    (w.counted f).mirrors = w.mirrors := rfl

@[simp] theorem answered_store (w : World σ) (b : Backend σ τ) (r : Request) :
    (w.answered b r).store = (b.call r w.store).2 := rfl

@[simp] theorem answered_mirrors (w : World σ) (b : Backend σ τ) (r : Request) :
    (w.answered b r).mirrors = w.mirrors := by
  show ((b.remark r).elim w w.logged).mirrors = w.mirrors
  cases b.remark r <;> rfl

@[simp] theorem answered_metrics (w : World σ) (b : Backend σ τ) (r : Request) :
    (w.answered b r).metrics = w.metrics := by
  show ((b.remark r).elim w w.logged).metrics = w.metrics
  cases b.remark r <;> rfl

@[simp] theorem log_apply (e : Log.Event) (w : World σ) : log e w = (.ok (), w.logged e) := rfl

@[simp] theorem count_apply (f : Metrics → Metrics) (w : World σ) :
    count f w = (.ok (), w.counted f) := rfl

@[simp] theorem onStore_apply (x : Action σ α) (w : World σ) :
    onStore x w = ((x w.store).1, { w with store := (x w.store).2 }) := rfl

@[simp] theorem request_apply (b : Backend σ τ) (r : Request) (w : World σ) :
    request b r w = ((b.call r w.store).1, w.answered b r) := by
  unfold request answered
  cases b.remark r <;> rfl

end World
end ObjectChannel
