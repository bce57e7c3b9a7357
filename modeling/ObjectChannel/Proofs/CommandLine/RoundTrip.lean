/-
A file that is uploaded comes back. Over a store in memory or an S3 service where nothing goes wrong, the
command line that stores a file stores all of it; one that fetches the object afterwards makes a file of
the same bytes and leaves the store as it is; and one that asks for a range shows just that range.
Before its task a command line loads the settings, sets up the log and reaches a service.
-/
import Mathlib
import ObjectChannel.Proofs.CommandLine.Transfer
import ObjectChannel.Proofs.S3.Plain

namespace ObjectChannel

open Store (Contents)

/-- The bytes of an object. -/
def Store.Contents.bytes? (c : Contents) (o : ObjectId) : Option Bytes := (c.object? o).map (·.data)

theorem Store.Contents.bytes?_bare (c : Contents) (o : ObjectId) : c.bare.bytes? o = c.bytes? o := by
  rw [bytes?, object?_bare, Option.map_map]
  rfl

/-- A store in memory, or an S3 service with its client, where nothing is planned to fail and all streams
are whole. `held` is what the store holds; a range can be asked for if it ends where `reaches` says. -/
inductive Faultless : {σ τ : Type} → Backend σ τ → (held : σ → Contents) → (reaches : Nat → Prop) →
    Prop where
  | memory {streams : Store.StreamPlan} (h : ∀ n, (streams n).IsWhole) :
    Faultless (Store.memoryBackend .none streams) (·.contents) fun _ => True
  | s3 (settings : Settings) {streams : Store.StreamPlan} {nesting : Nat} (h : ∀ n, (streams n).IsWhole) :
    Faultless (S3.backend settings .none streams nesting) (·.contents) (· ≤ S3.positionLimit)

namespace Faultless

variable {σ τ : Type} {b : Backend σ τ} {held : σ → Contents} {reaches : Nat → Prop}

theorem plain (h : Faultless b held reaches) :
    ∃ P : b.Plain, (∀ s, P.contents s = (held s).bare) ∧ P.Reaches = reaches := by
  cases h with
  | memory h => exact ⟨Store.memoryPlain h, fun _ => rfl, rfl⟩
  | s3 settings h => exact ⟨S3.plain settings _ h, fun _ => rfl, rfl⟩

theorem keepsOnLooks (h : Faultless b held reaches) : b.KeepsOnLooks held := by
  cases h with
  | memory => exact Store.memoryBackend_keepsOnLooks _ _
  | s3 => exact S3.backend_keepsOnLooks _ _ _ _

theorem reaches_of_le (h : Faultless b held reaches) {i j : Nat} (hj : reaches j) (hi : i ≤ j) :
    reaches i := by
  cases h with
  | memory => trivial
  | s3 => exact Nat.le_trans hi hj

end Faultless

namespace CommandLine

open Console

variable {σ τ : Type} {reach : Settings → Option String → Action (World σ) (Service σ τ)}
  {held : σ → Contents} {limits : Limits} {bucket : Option String} {service : Service σ τ}
  {c c' c₁ : Console σ}

/-! ## Start-up -/

/-- What a command line does before its task. -/
def startUp (reach : Settings → Option String → Action (World σ) (Service σ τ))
    (bucket : Option String) : Action (Console σ) (Service σ τ) := do
  let settings ← loadSettings
  setUpLog settings
  let service ← onWorld (reach settings bucket)
  let _ ← onWorld service.exposeMetrics
  return service

/-- Starting up neither writes files nor shows anything. -/
theorem startUp_keeps (reach : Settings → Option String → Action (World σ) (Service σ τ))
    (bucket : Option String) :
    (startUp reach bucket).Keeps fun c => (c.files, c.output) := by
  refine Action.Keeps.bind ?_ fun settings => Action.Keeps.bind ?_ fun _ => Action.Keeps.bind (fun _ => rfl)
    fun service => Action.Keeps.bind (fun _ => rfl) fun _ => .pure _
  · intro c
    unfold loadSettings
    rcases c.settings.get with ⟨_, _⟩
    rfl
  · exact (Action.Keeps.ofExcept _).bind fun _ => .modify fun _ => rfl

/-- Starting up goes well: a service is reached, and the store holds what it held. -/
structure Starts (reach : Settings → Option String → Action (World σ) (Service σ τ))
    (held : σ → Contents) (bucket : Option String) (service : Service σ τ) (c c' : Console σ) :
    Prop where
  reached : startUp reach bucket c = (.ok service, c')
  unchanged : held c'.world.store = held c.world.store

theorem Starts.files (h : Starts reach held bucket service c c') : c'.files = c.files := by
  have hkeeps := startUp_keeps reach bucket c
  rw [h.reached] at hkeeps
  exact congrArg Prod.fst hkeeps

theorem Starts.output (h : Starts reach held bucket service c c') : c'.output = c.output := by
  have hkeeps := startUp_keeps reach bucket c
  rw [h.reached] at hkeeps
  exact congrArg Prod.snd hkeeps

/-- Exposing metrics goes well, and leaves the store alone. -/
theorem exposeMetrics_apply (service : Service σ τ) (W : World σ) :
    ∃ exposed W', service.exposeMetrics W = (.ok exposed, W') ∧ W'.store = W.store := by
  unfold Service.exposeMetrics
  cases service.settings.metricsSocket with
  | none => exact ⟨_, _, rfl, rfl⟩
  | some socket => cases service.settings.metricsEnabled <;> exact ⟨_, _, rfl, rfl⟩

/-- Starting up goes well where there are settings, their log level is one, and the service can be
reached. -/
theorem starts_of_reach {l : Loaded} {tree : Log.Tree} {W : World σ}
    (hsettings : c.settings.get.1 = .ok l)
    (hlog : Log.Tree.ofSettings (.name l.settings.logLevel) l.settings.logFormat = .ok tree)
    (hreach : reach l.settings bucket c.world = (.ok service, W))
    (hheld : held W.store = held c.world.store) : ∃ c', Starts reach held bucket service c c' := by
  obtain ⟨exposed, W', hexpose, hstore⟩ := exposeMetrics_apply service W
  have hload : loadSettings c = (.ok l.settings, { c with settings := c.settings.get.2 }) := by
    unfold loadSettings
    rcases hget : c.settings.get with ⟨r, source⟩
    rw [hget] at hsettings
    obtain rfl : r = .ok l := hsettings
    rfl
  have hstart : startUp reach bucket c = (.ok service,
      { c with settings := c.settings.get.2, log := some tree, world := W' }) := by
    simp only [startUp, Action.bind_apply, hload, setUpLog, Action.ofExcept_apply, hlog,
      Action.modify_apply, onWorld_apply, hreach, hexpose]
    rfl
  refine ⟨_, hstart, ?_⟩
  show held W'.store = held c.world.store
  rw [hstore, hheld]

/-- An S3 service is reached where a bucket is named, and an access key and its secret go together. -/
theorem create_of_bucket (plan : Store.Plan S3.Method S3.CannedReply) (streams : Store.StreamPlan)
    (nesting : Nat) {settings : Settings} {name : String}
    (hbucket : (Service.given bucket).or (Service.given settings.bucket) = some name)
    (hkeys : (Service.given settings.accessKey).isSome = (Service.given settings.secretKey).isSome)
    (W : World S3.Service) :
    ∃ W', Service.create settings bucket (Service.reachS3 settings plan streams nesting) W =
        (.ok { settings, bucket := name, backend := S3.backend settings plan streams nesting }, W') ∧
      W'.store.contents = W.store.contents := by
  have hagree : ((Service.given settings.accessKey).isSome !=
      (Service.given settings.secretKey).isSome) = false := by rw [hkeys, bne_self_eq_false]
  simp only [Service.create, hbucket, Action.bind_apply, Service.reachS3, hagree, Bool.false_eq_true,
    ite_false, World.onStore_apply]
  exact ⟨_, rfl, rfl⟩

/-! ## Tasks -/

/-- A command line starts up and does its task. -/
theorem run_eq {texts : List String} {task : Task}
    (htexts : Invocation.ofTexts texts = .ok { bucket, task }) :
    run reach limits texts =
      startUp reach bucket >>= fun service => ending (perform service limits task) := by
  unfold run startUp
  simp only [htexts, bind_assoc, pure_bind]

/-- The command line is carried out, and this is what it shows. -/
structure Does (reach : Settings → Option String → Action (World σ) (Service σ τ)) (limits : Limits)
    (texts : List String) (c c₁ : Console σ) (text : Bytes) : Prop where
  run : run reach limits texts c = (.ok .done, c₁)
  output : c₁.output = c.output ++ text

theorem Does.of_task {texts : List String} {task : Task} {text : Bytes}
    (htexts : Invocation.ofTexts texts = .ok { bucket, task })
    (hstart : Starts reach held bucket service c c')
    (htask : perform service limits task c' = (.ok (), c₁)) (htext : c₁.output = c'.output ++ text) :
    Does reach limits texts c c₁ text where
  run := by simp only [run_eq htexts, Action.bind_apply, hstart.reached, ending, htask]
  output := by rw [htext, hstart.output]

variable {reaches : Nat → Prop} {key : String} {o : ObjectId} {data : Bytes}

section

variable (hfaultless : Faultless service.backend held reaches) (hkey : service.objectId key = .ok o)
  (hstart : Starts reach held bucket service c c')

include hfaultless hkey hstart

theorem does_upload (hcopy : 0 < limits.copyChunk) (hroom : limits.platform.HasRoom limits.copyChunk)
    (hfits : limits.Holds data) {source : String} (hsource : c.files.read source = .ok data)
    {texts : List String}
    (htexts : Invocation.ofTexts texts = .ok { bucket, task := .upload source (some key) }) :
    ∃ c₁, Does reach limits texts c c₁ s!"Uploaded {data.size} bytes to {o.uri}\n".toUTF8 ∧
      (held c₁.world.store).bytes? o = some data := by
  obtain ⟨P, hP, -⟩ := hfaultless.plain
  obtain ⟨W', hupload, hpublishes⟩ := upload_whole (P := P) (c := c') hcopy hroom hfits hkey
    (by rw [hstart.files]; exact hsource)
  have hobject : (P.contents W'.store).bytes? o = some data := hpublishes.object
  rw [hP, Contents.bytes?_bare] at hobject
  let text := s!"Uploaded {data.size} bytes to {o.uri}\n".toUTF8
  refine ⟨{ c' with world := W', output := c'.output ++ text }, .of_task htexts hstart ?_ rfl, hobject⟩
  simp only [perform, Action.bind_apply, hupload, Option.getD_some, Action.ofExcept_apply, hkey, print,
    Action.modify_apply, text]

variable (hdata : (held c.world.store).bytes? o = some data)

include hdata

omit hkey in
/-- Once a command line has started up, the object is there still. -/
theorem object_of_starts : ∃ P : service.backend.Plain, P.Reaches = reaches ∧
    ∃ x, (P.contents c'.world.store).object? o = some x ∧ x.data = data := by
  obtain ⟨P, hP, hreaches⟩ := hfaultless.plain
  rw [← hstart.unchanged, ← Contents.bytes?_bare, ← hP] at hdata
  exact ⟨P, hreaches, Option.map_eq_some_iff.mp hdata⟩

theorem does_download (hcopy : 0 < limits.copyChunk) (hroom : limits.platform.HasRoom limits.copyChunk)
    (hdirectory : service.settings.mirrorDirectory.all c'.world.mirrors.hasDirectory = true)
    {target : String} {files : Files} (htarget : c.files.write target .empty = .ok files)
    {texts : List String}
    (htexts : Invocation.ofTexts texts = .ok { bucket, task := .download key (some target) }) :
    ∃ c₁, Does reach limits texts c c₁ s!"Downloaded {data.size} bytes from {o.uri}\n".toUTF8 ∧
      c₁.files.read target = .ok data ∧ held c₁.world.store = held c.world.store := by
  obtain ⟨P, -, x, hx, rfl⟩ := object_of_starts hfaultless hstart hdata
  obtain ⟨files', W', hdownload, hfile, hlooks⟩ := download_whole (c := c') hcopy hroom hkey hx
    hdirectory (by rw [hstart.files]; exact htarget)
  let text := s!"Downloaded {x.data.size} bytes from {o.uri}\n".toUTF8
  refine ⟨{ c' with files := files', world := W', output := c'.output ++ text },
    .of_task htexts hstart ?_ rfl, hfile,
    (hfaultless.keepsOnLooks.of_looks hlooks).trans hstart.unchanged⟩
  simp only [perform, Action.bind_apply, hdownload, Action.ofExcept_apply, hkey, print,
    Action.modify_apply, text]

theorem does_readRange (hread : 0 < limits.readSize) (hroom : limits.platform.HasRoom limits.readSize)
    {offset length : Int} (hoffset : 0 ≤ offset) (hlength : length ≤ limits.platform.room)
    (hreach : length ≠ 0 → reaches (Reader.furthest limits data offset.toNat length))
    {texts : List String} (htexts : Invocation.ofTexts texts =
      .ok { bucket, task := .readRange key (some offset) (some length) }) :
    ∃ c₁, Does reach limits texts c c₁ (data.stretch offset.toNat length) ∧
      held c₁.world.store = held c.world.store := by
  obtain ⟨P, rfl, x, hx, rfl⟩ := object_of_starts hfaultless hstart hdata
  obtain ⟨W', hrange, hlooks⟩ := readRange_stretch (c := c') hoffset hread hroom hlength hkey hx
    fun h j hj => hfaultless.reaches_of_le (hreach h) hj
  let text := x.data.stretch offset.toNat length
  refine ⟨{ c' with world := W', output := c'.output ++ text }, .of_task htexts hstart ?_ rfl,
    (hfaultless.keepsOnLooks.of_looks hlooks).trans hstart.unchanged⟩
  simp only [perform, Action.bind_apply, hrange, print, Action.modify_apply, text]

end

/-- A range is refused whose length is too large for a number of bytes. -/
theorem run_readRange_of_large {offset length : Int} (hoffset : 0 ≤ offset)
    (hlength : Capacity.maxSize < length) (hkey : service.objectId key = .ok o)
    (hstart : Starts reach held bucket service c c') {texts : List String}
    (htexts : Invocation.ofTexts texts =
      .ok { bucket, task := .readRange key (some offset) (some length) }) :
    run reach limits texts c = (.error .outOfRange, c') := by
  have hnegative : ¬length < 0 := by
    simp only [Capacity.maxSize] at hlength
    omega
  have hrefused : limits.platform.capacity Capacity.maxSize length = .error .outOfRange := by
    simp [Platform.capacity, hlength]
  have hsize : numberOf (some length) = .ok length := rfl
  simp only [run_eq htexts, Action.bind_apply, hstart.reached, ending, perform, readRange,
    Action.ofExcept_apply, hkey, reader_of_offset o hoffset, hsize, onWorld_apply, ChannelAction.runOn,
    Reader.read, hnegative, ite_false, hrefused]

/-! ## There and back -/

/-- **A file that is uploaded comes back.** Over a store in memory or an S3 service where nothing goes
wrong, let a file be uploaded that the parts of one upload can hold. The command line is carried out, and
reports its size; the object has its bytes. From then on, as long as the store holds what it holds then,
downloading to where a file can be written reports the size as well, makes a file of these bytes, and
leaves the store as it is; and asking for a range shows the stretch of the file, or all behind the offset
if the length is negative. Sizes have to be such that there is room for so many bytes, and ranges have to
end where the store can be asked for them. -/
theorem round_trip (hfaultless : Faultless service.backend held reaches)
    (hcopy : 0 < limits.copyChunk) (hcopyRoom : limits.platform.HasRoom limits.copyChunk)
    (hread : 0 < limits.readSize) (hreadRoom : limits.platform.HasRoom limits.readSize)
    (hkey : service.objectId key = .ok o) (hfits : limits.Holds data) {source target : String}
    {up down : List String}
    (hup : Invocation.ofTexts up = .ok { bucket, task := .upload source (some key) })
    (hdown : Invocation.ofTexts down = .ok { bucket, task := .download key (some target) })
    (hsource : c.files.read source = .ok data) (hstart : Starts reach held bucket service c c') :
    ∃ c₁, Does reach limits up c c₁ s!"Uploaded {data.size} bytes to {o.uri}\n".toUTF8 ∧
      (held c₁.world.store).bytes? o = some data ∧
      ∀ d d', held d.world.store = held c₁.world.store → Starts reach held bucket service d d' →
        (∀ files, d.files.write target .empty = .ok files →
          service.settings.mirrorDirectory.all d'.world.mirrors.hasDirectory = true →
          ∃ d₁, Does reach limits down d d₁ s!"Downloaded {data.size} bytes from {o.uri}\n".toUTF8 ∧
            d₁.files.read target = .ok data ∧ held d₁.world.store = held d.world.store) ∧
        ∀ (offset length : Int) (range : List String), 0 ≤ offset → length ≤ limits.platform.room →
          (length ≠ 0 → reaches (Reader.furthest limits data offset.toNat length)) →
          Invocation.ofTexts range =
            .ok { bucket, task := .readRange key (some offset) (some length) } →
          ∃ d₁, Does reach limits range d d₁ (data.stretch offset.toNat length) ∧
            held d₁.world.store = held d.world.store := by
  obtain ⟨c₁, hupload, hbytes⟩ := does_upload hfaultless hkey hstart hcopy hcopyRoom hfits hsource hup
  refine ⟨c₁, hupload, hbytes, fun d d' hheld hstart' => ⟨fun files htarget hdirectory => ?_, ?_⟩⟩
  · exact does_download hfaultless hkey hstart' (by rw [hheld]; exact hbytes) hcopy hcopyRoom
      hdirectory htarget hdown
  · intro offset length range hoffset hlength hreach hrange
    exact does_readRange hfaultless hkey hstart' (by rw [hheld]; exact hbytes) hread hreadRoom hoffset
      hlength hreach hrange

/-! ### Seven bytes -/

/-- Sizes that fit neither one another nor the file. -/
def oddLimits : Limits :=
  { minPartSize := 3, maxParts := 3, readSize := 4, copyChunk := 2, downloadChunk := 5 }

/-- An S3 service whose streams give two bytes at a time. -/
def pairwise (settings : Settings) (bucket : Option String) :
    Action (World S3.Service) (Service S3.Service (S3.Body Store.Stream)) :=
  Service.create settings bucket (Service.reachS3 settings .none (fun _ => { chunk := some 2 }) 985)

def pairwiseService : Service S3.Service (S3.Body Store.Stream) :=
  { settings := {}, bucket := "b", backend := S3.backend {} .none (fun _ => { chunk := some 2 }) 985 }

def letters : Bytes := "abcdefg".toUTF8

def lettersAt (s : S3.Service) : Console S3.Service :=
  { world := { store := s }, files := ({} : Files).put ["f"] letters }

theorem letters_object : pairwiseService.objectId "k" = .ok ⟨"b", "k"⟩ := rfl

theorem letters_source (s : S3.Service) : (lettersAt s).files.read "f" = .ok letters := by cbv

theorem letters_upload : Invocation.ofTexts ["--bucket", "b", "upload", "f", "k"] =
    .ok { bucket := some "b", task := .upload "f" (some "k") } := by cbv

theorem pairwise_faultless : Faultless pairwiseService.backend (·.contents) (· ≤ S3.positionLimit) :=
  .s3 {} fun _ => ⟨by decide, rfl, rfl, rfl⟩

theorem lettersAt_starts (s : S3.Service) :
    ∃ c', Starts pairwise (·.contents) (some "b") pairwiseService (lettersAt s) c' := by
  have hbucket : (Service.given (some "b")).or (Service.given ({} : Settings).bucket) = some "b" := by
    decide
  obtain ⟨W, hreach, hcontents⟩ :=
    create_of_bucket .none (fun _ => { chunk := some 2 }) 985 hbucket rfl (lettersAt s).world
  have hsettings : (lettersAt s).settings.get.1 = .ok ⟨{}, 0⟩ := by
    rw [show (lettersAt s).settings = {} from rfl]
    rfl
  obtain ⟨tree, hlog⟩ : ∃ tree, Log.Tree.ofSettings (.name ({} : Settings).logLevel)
    ({} : Settings).logFormat = .ok tree := ⟨_, rfl⟩
  exact starts_of_reach hsettings hlog hreach hcontents

theorem round_trip_of_letters :
    ∃ c₁, Does pairwise oddLimits ["--bucket", "b", "upload", "f", "k"] (lettersAt {}) c₁
        "Uploaded 7 bytes to s3://b/k\n".toUTF8 ∧
      c₁.world.store.contents.bytes? ⟨"b", "k"⟩ = some letters ∧
      (∃ d₁, Does pairwise oddLimits ["--bucket", "b", "download", "k", "g"]
          (lettersAt c₁.world.store) d₁ "Downloaded 7 bytes from s3://b/k\n".toUTF8 ∧
        d₁.files.read "g" = .ok letters ∧
        d₁.world.store.contents = c₁.world.store.contents) ∧
      ∃ d₁, Does pairwise oddLimits
          ["--bucket", "b", "read-range", "k", "--offset", "2", "--length", "3"]
          (lettersAt c₁.world.store) d₁ "cde".toUTF8 := by
  obtain ⟨_, hstart⟩ := lettersAt_starts {}
  have hdown : Invocation.ofTexts ["--bucket", "b", "download", "k", "g"] =
      .ok { bucket := some "b", task := .download "k" (some "g") } := by cbv
  have hrange : Invocation.ofTexts
      ["--bucket", "b", "read-range", "k", "--offset", "2", "--length", "3"] =
        .ok { bucket := some "b", task := .readRange "k" (some 2) (some 3) } := by cbv
  have hfits : oddLimits.Holds letters := by decide
  obtain ⟨c₁, hupload, hbytes, hafter⟩ := round_trip pairwise_faultless (by decide) (by decide)
    (by decide) (by decide) letters_object hfits letters_upload hdown (letters_source {}) hstart
  obtain ⟨_, hstart'⟩ := lettersAt_starts c₁.world.store
  obtain ⟨hdownload, hreadRange⟩ := hafter (lettersAt c₁.world.store) _ rfl hstart'
  have htarget : (lettersAt c₁.world.store).files.write "g" .empty =
      .ok ((({} : Files).put ["f"] letters).put ["g"] .empty) := by cbv
  obtain ⟨d₁, hdoes, hfile, hheld⟩ := hdownload _ htarget rfl
  have hreach : Reader.furthest oddLimits letters 2 3 ≤ S3.positionLimit :=
    S3.le_positionLimit (by decide)
  obtain ⟨e₁, hdoes', -⟩ := hreadRange 2 3 _ (by decide) (by decide) (fun _ => hreach) hrange
  exact ⟨c₁, hupload, hbytes, ⟨d₁, hdoes, hfile, hheld⟩, e₁, hdoes'⟩

/-- Without a bound on its length a range may be refused, although the object is there. -/
theorem large_range_refused :
    ∃ c₁, Does pairwise oddLimits ["--bucket", "b", "upload", "f", "k"] (lettersAt {}) c₁
        "Uploaded 7 bytes to s3://b/k\n".toUTF8 ∧
      c₁.world.store.contents.bytes? ⟨"b", "k"⟩ = some letters ∧
      (run pairwise oddLimits ["--bucket", "b", "read-range", "k", "--length", "9223372036854775808"]
        (lettersAt c₁.world.store)).1 = .error .outOfRange := by
  obtain ⟨_, hstart⟩ := lettersAt_starts {}
  have hrange : Invocation.ofTexts
      ["--bucket", "b", "read-range", "k", "--length", "9223372036854775808"] =
        .ok { bucket := some "b", task := .readRange "k" (some 0) (some 9223372036854775808) } := by cbv
  have hfits : oddLimits.Holds letters := by decide
  obtain ⟨c₁, hupload, hbytes⟩ := does_upload pairwise_faultless letters_object hstart (by decide)
    (by decide) hfits (letters_source {}) letters_upload
  obtain ⟨_, hstart'⟩ := lettersAt_starts c₁.world.store
  refine ⟨c₁, hupload, hbytes, ?_⟩
  rw [run_readRange_of_large (by decide) (by decide) letters_object hstart' hrange]

end CommandLine

end ObjectChannel
