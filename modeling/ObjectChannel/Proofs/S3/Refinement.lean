/-
Working through the client with a service that does nothing wrong is working with a store in memory:
every step comes to the same, and the same objects are left. The one thing that shows which of the two
it is, is a read so far out that its range is not put in writing.
-/
import ObjectChannel.Proofs.Plain.Session
import ObjectChannel.Proofs.S3.Plain

namespace ObjectChannel.S3

open Session (Told run shown)
open Store (MemoryStore Stream StreamPlan)

section

variable (settings : Settings) (bucket : String) (limits : Limits) (names : ContentType.NameTypes)
  (streams : StreamPlan) (nesting : Nat) (objects : Table StoredObject) (mirrors : Mirrors)
  (cs : List Command)

/-- What becomes of a session over the client, with a service that holds some objects at first. -/
def toldByClient : Told Service :=
  run ⟨settings, bucket, backend settings .none streams nesting⟩ limits names cs
    ([], { world := { store := { contents := { objects } }, mirrors } })

/-- What becomes of the same session over a store in memory. -/
def toldByMemory : Told MemoryStore :=
  run ⟨settings, bucket, Store.memoryBackend .none streams⟩ limits names cs
    ([], { world := { store := { contents := { objects } }, mirrors } })

end

/-- The bytes of the objects, by name. -/
def bytesOf (c : Store.Contents) : Table Bytes := c.objects.map (·.data)

theorem bytesOf_bare (c : Store.Contents) : bytesOf c.bare = bytesOf c := by
  simp [bytesOf, Store.Contents.bare, Table.map, StoredObject.bare, Function.comp_def]

/-- **The client refines the store in memory.** As long as no read goes so far out that its range is not
put in writing, every step of a session has the same outcome over both, whatever chunks their streams
come in, and the same objects with the same bytes are left. -/
theorem refines_memory (settings : Settings) (bucket : String) {limits : Limits}
    (hworkers : 0 < limits.parallelWorkers) (names : ContentType.NameTypes)
    {streams streams' : StreamPlan} (hstreams : ∀ n, (streams n).IsWhole)
    (hstreams' : ∀ n, (streams' n).IsWhole) (nesting : Nat) (objects : Table StoredObject)
    (mirrors : Mirrors) {cs : List Command} (hcs : ∀ c ∈ cs, c ≠ .backend)
    (hwritten : ∀ t ∈ (toldByClient settings bucket limits names streams nesting objects mirrors cs).1,
      isUnwritten t.outcome = false) :
    let memory := toldByMemory settings bucket limits names streams' objects mirrors cs
    let client := toldByClient settings bucket limits names streams nesting objects mirrors cs
    shown memory.1 = shown client.1 ∧
      bytesOf memory.2.world.store.contents = bytesOf client.2.world.store.contents := by
  intro memory client
  have hstart : Session.Alike (plain settings nesting hstreams) (Store.memoryPlain hstreams')
      { world := { store := { contents := { objects } }, mirrors } }
      { world := { store := { contents := { objects } }, mirrors } } := by
    refine ⟨fun _ => .none, ?_, rfl, rfl, ?_, .refl _⟩
    · intro name c hc
      simp at hc
    · intro n _
      rfl
  have hnothing : shown ([] : List (Session.Step MemoryStore)) = shown ([] : List (Session.Step Service)) :=
    rfl
  obtain ⟨hshown, hend⟩ := Session.run_same settings bucket (fun _ => trivial) hworkers names hcs hstart
    hnothing hwritten
  refine ⟨hshown, ?_⟩
  have hcontents := congrArg bytesOf hend.world.contents
  simp only [bytesOf_bare, plain, Store.memoryPlain] at hcontents
  exact hcontents

/-- Streams of one byte at a time. -/
def byteStreams : StreamPlan := fun _ => { chunk := some 1 }

theorem byteStreams_isWhole (n : Nat) : (byteStreams n).IsWhole := by
  simp [byteStreams, Store.StreamHabit.IsWhole]

/-- Streams that give all they are asked for at once. -/
def promptStreams : StreamPlan := fun _ => {}

theorem promptStreams_isWhole (n : Nat) : (promptStreams n).IsWhole := by
  simp [promptStreams, Store.StreamHabit.IsWhole]

/-- A multipart upload is given up, an object is made, looked for, read to its end and beyond, and
replaced by a mirrored channel; another object is not there. -/
def oneObject : List Command :=
  [.openWriter "w" "key" (some "") .empty, .use "w" (.write (some ⟨#[1, 2, 3]⟩)), .use "w" .discard,
    .openWriter "w" "key" (some "") .empty, .use "w" (.write (some ⟨#[4]⟩)), .use "w" .close,
    .objectExists "key", .openReader "r" "key" 0, .use "r" (.read (some 4)),
    .use "r" (.read (some 4)), .openReader "x" "other" 0, .use "x" (.read (some 1)),
    .openChannel "m" "key" { options := some [.option .write, .option .truncateExisting] },
    .use "m" (.write (some ⟨#[9]⟩)), .use "m" .close]

theorem refines_memory_of_one_object :
    let client := toldByClient {} "bucket" { minPartSize := 2 } ContentType.ofName byteStreams 985 .empty {}
      oneObject
    let memory := toldByMemory {} "bucket" { minPartSize := 2 } ContentType.ofName promptStreams .empty {}
      oneObject
    (0 < ({ minPartSize := 2 } : Limits).parallelWorkers ∧ (∀ c ∈ oneObject, c ≠ .backend) ∧
      ∀ t ∈ client.1, isUnwritten t.outcome = false) ∧
      (bytesOf client.2.world.store.contents).entries = [("bucket/key", ⟨#[9]⟩)] ∧
      shown memory.1 = shown client.1 ∧
      bytesOf memory.2.world.store.contents = bytesOf client.2.world.store.contents := by
  intro client memory
  have hworkers : 0 < ({ minPartSize := 2 } : Limits).parallelWorkers := by decide
  have hcs : ∀ c ∈ oneObject, c ≠ .backend := by simp [oneObject]
  have hwritten : client.1.all (fun t => !isUnwritten t.outcome) = true := by decide +kernel
  have hentries : (bytesOf client.2.world.store.contents).entries = [("bucket/key", ⟨#[9]⟩)] := by
    decide +kernel
  simp only [List.all_eq_true, Bool.not_eq_eq_eq_not, Bool.not_true] at hwritten
  exact ⟨⟨hworkers, hcs, hwritten⟩, hentries, refines_memory {} "bucket" hworkers ContentType.ofName
    byteStreams_isWhole promptStreams_isWhole 985 .empty {} hcs hwritten⟩

/-! ## A read out of reach -/

/-- From here on no range of two bytes is put in writing. -/
def farPosition : Nat := positionLimit - 1

/-- A read of two bytes from there. -/
def farRead : List Command := [.openReader "r" "obj" farPosition, .use "r" (.read (some 2))]

/-- The reader that is opened for it. -/
def farReader : Reader := { object := { bucket := "assets", key := "obj" }, position := farPosition }

/-- The objects that there are: one, of ten bytes. -/
def tenBytes : Table StoredObject :=
  ⟨[("assets/obj", { data := ⟨#[48, 49, 50, 51, 52, 53, 54, 55, 56, 57]⟩ })]⟩

section

variable {σ τ : Type} {b : Backend σ τ}

theorem openReader_farReader :
    Service.openReader ⟨{}, "assets", b⟩ "obj" farPosition = .ok farReader := by
  have hposition : ¬(farPosition : Int) < 0 := by omega
  have hobject : Service.objectId ⟨{}, "assets", b⟩ "obj" = .ok farReader.object := rfl
  have hopened : Reader.opened farReader.object farPosition = .ok farReader := by
    simp only [Reader.opened, hposition, ite_false, Int.toNat_natCast, farReader]
  simp only [Service.openReader, hobject, bind, Except.bind, hopened]

/-- All that is shown of the read is what a fetch of two bytes brings. -/
theorem shown_farRead (names : ContentType.NameTypes) {world : World σ} {f : Reader.Fetched}
    {s : Reader × World σ} (h : Reader.fetchUpTo b 2 (farReader, world) = (.ok f, s)) :
    shown (run ⟨{}, "assets", b⟩ {} names farRead ([], { world })).1 =
      [bareOutcome (f.outcome.map fun _ => .bytes f.bytes), .ok .none] := by
  have hopen : Session.perform ⟨{}, "assets", b⟩ {} names (.openReader "r" "obj" farPosition)
      { world } = (.ok .none, { channels := Table.empty.insert "r" (.reader farReader), world }) := by
    simp only [Session.perform, Session.enlist_apply, openReader_farReader]
    rfl
  have hread : Channel.performReader ⟨b, {}, names⟩ (.read (some 2)) (farReader, world) =
      (f.outcome.map fun _ => .bytes f.bytes, s) := by
    simp only [Channel.performReader, Action.bind_apply]
    rw [show Reader.read b {} (some 2) = Reader.readChunk b 2 from rfl, Reader.readChunk_apply h]
    cases f.outcome <;> rfl
  have huse : (Session.perform ⟨{}, "assets", b⟩ {} names (.use "r" (.read (some 2)))
      { channels := Table.empty.insert "r" (.reader farReader), world }).1 =
      f.outcome.map fun _ => .bytes f.bytes := by
    simp only [Session.perform]
    rw [Session.use_of_channel _ _ (Table.get?_insert_self ..)]
    simp only [Session.settingOf, Channel.perform, Channel.lift, hread]
  simp only [farRead, run, shown, List.foldl, hopen, huse, List.map]
  rfl

end

/-- The client and the store in memory are told apart by a read far enough behind the end of an object:
it brings nothing from memory, and fails over the client. -/
theorem far_read_tells_apart :
    shown (toldByMemory {} "assets" {} ContentType.ofName promptStreams tenBytes {} farRead).1 ≠
      shown (toldByClient {} "assets" {} ContentType.ofName promptStreams 985 tenBytes {} farRead).1 := by
  have hbeyond : ¬farPosition + 2 ≤ positionLimit := by
    unfold farPosition
    omega
  have hreach : farReader.closed = false → 0 < 2 →
      (Store.memoryPlain promptStreams_isWhole).Reaches (farPosition + 2) := fun _ _ => trivial
  obtain ⟨f, s, hfetch, hf⟩ := Reader.fetchUpTo_of_beyond (r := farReader)
    (P := plain {} 985 promptStreams_isWhole) { store := { contents := { objects := tenBytes } } } rfl
    Nat.zero_lt_two hbeyond
  obtain ⟨f', W', hfetch', hf', -, -⟩ := Reader.fetchUpTo_of_reaches (r := farReader)
    { store := { contents := { objects := tenBytes } } } hreach
  have hbare : f'.outcome.mapError Failure.bare = .ok () := congrArg Reader.Fetched.outcome hf'
  intro hsame
  rw [toldByMemory, toldByClient, shown_farRead _ hfetch, shown_farRead _ hfetch', hf] at hsame
  cases hr : f'.outcome with
  | error e =>
    rw [hr] at hbare
    cases hbare
  | ok _ =>
    rw [hr] at hsame
    cases (List.cons.inj hsame).1

end ObjectChannel.S3
