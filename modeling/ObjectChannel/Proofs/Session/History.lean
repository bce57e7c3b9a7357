/-
Histories of work with a service: which commands were carried out, and what came of them. A history
is told newest first. It says what each channel was opened for and what has been done with it since,
and from that alone what a command has decided about an object, if it has decided anything.
-/
import ObjectChannel.Proofs.Mirrored.Effect
import ObjectChannel.Proofs.Writer.Account
import ObjectChannel.Session

namespace ObjectChannel

/-- What a store holds under a name, without what is said about it. -/
def Holdings.bytes (h : Holdings) (o : ObjectId) : Option Bytes := (h.object o).map (·.data)

theorem Holdings.bytes_setObject (h : Holdings) (o k : ObjectId) (x : Option StoredObject) :
    (h.setObject o x).bytes k = if k.path = o.path then x.map (·.data) else h.bytes k := by
  by_cases hk : k.path = o.path <;> simp [bytes, setObject, hk]

def Channel.isClosed : Channel → Bool
  | .writer w => w.closed
  | .reader r => r.closed
  | .mirrored m => m.closed

namespace Session

variable {σ τ : Type}

/-- A command that was carried out, and what came of it. -/
structure Step (σ : Type) where
  command : Command
  before : Session σ
  outcome : Except Failure Answer

/-- A session with its history. -/
abbrev Told (σ : Type) := List (Step σ) × Session σ

/-- Carries out commands one after the other. -/
def run (service : Service σ τ) (limits : Limits) (names : ContentType.NameTypes)
    (cs : List Command) (p : Told σ) : Told σ :=
  cs.foldl (fun p c =>
    (⟨c, p.2, (perform service limits names c p.2).1⟩ :: p.1,
      (perform service limits names c p.2).2)) p

/-! ## Lives of channels -/

/-- The step has opened a channel under the name. -/
def Step.opens (name : String) (t : Step σ) : Bool :=
  t.outcome.isOk &&
    match t.command with
    | .openWriter n .. | .openReader n .. | .openChannel n .. => n == name
    | _ => false

/-- The operation on the channel of the name, with its outcome. -/
def Step.use? (name : String) (t : Step σ) : Option (Operation × Except Failure Answer) :=
  match t.command with
  | .use n op => if n = name then some (op, t.outcome) else none
  | _ => none

/-- How a channel was opened, and what has been done with it since, in order. -/
structure Life (σ : Type) where
  opening : Step σ
  uses : List (Operation × Except Failure Answer) := []

/-- The life of the channel that was last opened under a name. -/
def life? (name : String) : List (Step σ) → Option (Life σ)
  | [] => none
  | t :: past =>
    if t.opens name then some { opening := t }
    else (life? name past).map fun l => { l with uses := l.uses ++ (t.use? name).toList }

namespace Life

/-- All that a writer with this life has accepted. -/
def accepted (l : Life σ) : Bytes := .concat (l.uses.map fun u => Writer.acceptedBy u.1 u.2)

/-- The file of bytes that a mirrored channel with this life works on: it starts with what the store
held when the channel was opened. -/
def file {b : Backend σ τ} (V : b.View) (p : Platform) (o : ObjectId) (os : OpenOptions)
    (l : Life σ) : ByteFile :=
  (ByteFile.perform p os).final (l.uses.map (·.1))
    (.opened os ((V.holds l.opening.before.world.store).original o os).toList)

theorem accepted_use (l : Life σ) (op : Operation) (r : Except Failure Answer) :
    ({ l with uses := l.uses ++ [(op, r)] } : Life σ).accepted =
      l.accepted ++ Writer.acceptedBy op r := by
  apply Bytes.ext_toList
  simp [accepted, Bytes.toList_concat]

theorem file_use {b : Backend σ τ} (V : b.View) (p : Platform) (o : ObjectId) (os : OpenOptions)
    (l : Life σ) (op : Operation) (r : Except Failure Answer) :
    ({ l with uses := l.uses ++ [(op, r)] } : Life σ).file V p o os =
      (ByteFile.perform p os op (l.file V p o os)).2 := by
  simp [file, Reference.final, List.foldl_append]

end Life

/-! ## Decisions -/

variable (service : Service σ τ) (V : service.backend.View) (p : Platform)

/-- What an operation that goes well decides, on an open channel with this life: the object of the
channel, and its content or absence. -/
def Life.decides (l : Life σ) (op : Operation) : Option (ObjectId × Option Bytes) :=
  match l.opening.command with
  | .openWriter _ key _ _ =>
    match service.objectId key with
    | .ok o => if op.closes then some (o, some l.accepted) else none
    | .error _ => none
  | .openChannel _ key q =>
    match service.objectId key, OpenOptions.ofGiven q.options with
    | .ok o, .ok os =>
      if !op.isClosing then none
      else if os.has .deleteOnClose then some (o, none)
      else if os.isReadOnly then none
      else some (o, some (.ofList (l.file V p o os).content))
    | _, _ => none
  | _ => none

/-- What a step has decided, with the given history before it: an object's content or absence. -/
def Step.decision? (past : List (Step σ)) (t : Step σ) : Option (ObjectId × Option Bytes) :=
  if t.outcome.isOk then
    match t.command with
    | .delete key => (service.objectId key).toOption.map (·, none)
    | .use name op =>
      if (t.before.channels.get? name).any (!·.isClosed) then
        (life? name past).bind fun l => l.decides service V p op
      else none
    | _ => none
  else none

/-- The content of an object as the last decision about it has it; it was `initial` before any. -/
def decided (o : ObjectId) (initial : Option Bytes) : List (Step σ) → Option Bytes
  | [] => initial
  | t :: past =>
    match t.decision? service V p past with
    | some (k, x) => if o.path = k.path then x else decided o initial past
    | none => decided o initial past

/-! ## What other commands do to a life -/

variable {service V p}

/-- A life goes on with the uses of its channel. -/
theorem life?_use {name : String} {past : List (Step σ)} {t : Step σ} (op : Operation)
    (ht : t.command = .use name op) :
    life? name (t :: past) =
      (life? name past).map fun l => { l with uses := l.uses ++ [(op, t.outcome)] } := by
  have hopens : t.opens name = false := by simp [Step.opens, ht]
  have huse : t.use? name = some (op, t.outcome) := by simp [Step.use?, ht]
  simp only [life?, hopens, huse, Bool.false_eq_true, ite_false]
  rfl

/-- Commands for other channels, and commands that open none after all, leave it as it is. -/
theorem life?_of_other {name : String} {past : List (Step σ)} {t : Step σ}
    (ho : t.opens name = false) (hu : t.use? name = none) :
    life? name (t :: past) = life? name past := by
  simp only [life?, ho, hu, Bool.false_eq_true, ite_false, Option.toList_none, List.append_nil]
  cases life? name past <;> rfl

theorem opens_of_other {name : String} {t : Step σ} (h : t.command.channel? ≠ some name) :
    t.opens name = false ∧ t.use? name = none := by
  unfold Step.opens Step.use?
  cases hc : t.command with
  | openWriter n | openReader n | openChannel n =>
    have hne : n ≠ name := fun h' => h (by rw [hc, h']; rfl)
    simp [hne]
  | use n op =>
    have hne : n ≠ name := fun h' => h (by rw [hc, h']; rfl)
    simp [hne]
  | _ => simp

end Session

end ObjectChannel
