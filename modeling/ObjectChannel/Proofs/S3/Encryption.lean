/-
Whatever channels create is described as the settings and the channels ask for: each request that creates
an object says how it is to be encrypted, its class, its content type and its metadata, and no other
request says any of it. The parts of an upload are not described, so that an object that is put together
from parts has the encryption that its upload was begun with. A ledger keeps what was said about each
object and each upload; every object that a run has made stands in it with the encryption of the
settings.
-/
import ObjectChannel.Proofs.S3.Requests
import ObjectChannel.S3.Listing

namespace ObjectChannel.S3

open Client (given)
open Session (Step run)
open Store (Contents Plan Stream StreamPlan)

/-! ## What requests say -/

/-- The requests that create an object, or an upload that becomes one. -/
def creating : List Method := [.putObject, .createUpload, .uploadFile]

/-- The names under which something is said about an object. -/
def describing : List String :=
  ["ServerSideEncryption", "SSEKMSKeyId", "StorageClass", "ContentType", "Metadata"]

/-- What a request says under a name. For a file that is sent by the transfer manager it stands among the
extra arguments. -/
def Request.said (q : Request) (name : String) : Option Value :=
  let said := q.parameters fun _ => .null
  match said.lookup "ExtraArgs" with
  | some (.object extra) => extra.lookup name
  | some _ => none
  | none => said.lookup name

/-- What is said about an object is what the settings and its channel ask for. -/
structure Described (settings : Settings) (info : ObjectInfo) (said : String → Option Value) :
    Prop where
  encryption : said "ServerSideEncryption" = if settings.encrypts then some (.text "aws:kms") else none
  key : said "SSEKMSKeyId" =
    if settings.encrypts then (given settings.encryptionKey).map .text else none
  /-- The channel's own class counts for more than that of the settings. -/
  storageClass : said "StorageClass" =
    ((given info.storageClass).or (given settings.storageClass)).map .text
  contentType : said "ContentType" = (given info.contentType).map .text
  metadata : said "Metadata" = if info.metadata.isEmpty then none else some info.metadata.listing

theorem lookup_said {name name' : String} (s : Option String) :
    (WriteParams.listing.said name s).lookup name' = if name' == name then s.map .text else none := by
  cases s <;> cases h : name' == name <;>
    simp [WriteParams.listing.said, List.lookup_cons, h]

theorem lookup_listing (p : WriteParams) (name : String) :
    p.listing.lookup name =
      ((((if name == "ContentType" then p.contentType.map .text else none).or
        (if name == "Metadata" then p.metadata.map Metadata.listing else none)).or
        (if name == "StorageClass" then p.storageClass.map .text else none)).or
        (if name == "ServerSideEncryption" then p.encryption.map .text else none)).or
        (if name == "SSEKMSKeyId" then p.encryptionKey.map .text else none) := by
  rcases p with ⟨_, metadata, _, _, _⟩
  simp only [WriteParams.listing, List.lookup_append, lookup_said]
  cases metadata with
  | none => simp
  | some m => cases h : name == "Metadata" <;> simp [List.lookup_cons, h]

theorem described_listing (settings : Settings) (info : ObjectInfo) :
    Described settings info ((Client.writeParams settings info).listing.lookup ·) where
  encryption := by
    cases h : settings.encrypts <;> simp [lookup_listing, Client.writeParams, h]
  key := by
    cases h : settings.encrypts <;> simp [lookup_listing, Client.writeParams, h]
  storageClass := by simp [lookup_listing, Client.writeParams]
  contentType := by simp [lookup_listing, Client.writeParams]
  metadata := by
    cases h : info.metadata.isEmpty <;> simp [lookup_listing, Client.writeParams, h]

/-- A request that creates an object says of it what its parameters list. -/
theorem said_of_params {q : Request} {p : WriteParams} (hq : q.params? = some p) {name : String}
    (hname : name ∈ describing) : q.said name = p.listing.lookup name := by
  have hextra : p.listing.lookup "ExtraArgs" = none := by simp [lookup_listing]
  cases q with
  | putObject _ _ _ p' | createUpload _ p' =>
    obtain rfl : p' = p := Option.some.inj hq
    simp only [describing, List.mem_cons, List.not_mem_nil, or_false] at hname
    rcases hname with rfl | rfl | rfl | rfl | rfl <;>
      simp [Request.said, Request.parameters, Request.parameters.target, List.lookup_cons, hextra]
  | uploadFile o content p' workers =>
    obtain rfl : p' = p := Option.some.inj hq
    cases hempty : p'.isEmpty with
    | false =>
      simp [Request.said, Request.parameters, Request.parameters.target, List.lookup_cons, hempty]
    | true =>
      have hnone : p'.listing.lookup name = none := by
        simp only [WriteParams.isEmpty, Bool.and_eq_true, Option.isNone_iff_eq_none] at hempty
        simp [lookup_listing, hempty]
      simp [Request.said, Request.parameters, Request.parameters.target, List.lookup_cons, hempty,
        hnone]
  | _ => cases hq

theorem described_of_params {settings : Settings} {info : ObjectInfo} {q : Request}
    (hq : q.params? = some (Client.writeParams settings info)) : Described settings info q.said := by
  have hsaid {name : String} (hname : name ∈ describing) := said_of_params hq hname
  obtain ⟨encryption, key, storageClass, contentType, metadata⟩ := described_listing settings info
  exact ⟨(hsaid (by decide)).trans encryption, (hsaid (by decide)).trans key,
    (hsaid (by decide)).trans storageClass, (hsaid (by decide)).trans contentType,
    (hsaid (by decide)).trans metadata⟩

theorem mem_creating {q : Request} : q.method ∈ creating ↔ ∃ p, q.params? = some p := by
  cases q <;> simp [creating, Request.method, Request.params?]

/-- Other requests say nothing of the sort. -/
theorem said_of_other {q : Request} (hq : q.params? = none) {name : String}
    (hname : name ∈ describing) : q.said name = none := by
  simp only [describing, List.mem_cons, List.not_mem_nil, or_false] at hname
  cases q with
  | putObject | createUpload | uploadFile => cases hq
  | getObject o range =>
    cases range <;> rcases hname with rfl | rfl | rfl | rfl | rfl <;> rfl
  | _ => rcases hname with rfl | rfl | rfl | rfl | rfl <;> rfl

/-! ## What becomes of the requests -/

/-- What a request that is granted makes of the contents. -/
def Request.grantedIn (c : Contents) : Request → Contents
  | .putObject o body _ p => c.put o (Service.stored body p)
  | .uploadFile o content p _ => c.put o (Service.stored content p)
  | .deleteObject o => c.delete o
  | .createUpload o p => c.beginUpload o p.contentType (p.metadata.getD .empty)
  | .uploadPart _ id n body _ => c.addPart id n body
  | .completeUpload o id parts => c.completeUpload id o (parts.map (·.number))
  | .abortUpload _ id => c.abortUpload id
  | .getObject .. | .headObject _ => c

namespace Service

variable {plan : Plan Method CannedReply} {streams : StreamPlan} {s : Service} {q : Request}

/-- The service is left to deal with the request, and does not refuse it. -/
def grants (plan : Plan Method CannedReply) (streams : StreamPlan) (s : Service) (q : Request) : Bool :=
  (plan q.method ((s.note (.request q)).methodCount q.method)).isNone &&
    (serve streams q (s.note (.request q))).1.isOk

theorem serve_contents (streams : StreamPlan) (q : Request) (s : Service) :
    (serve streams q s).2.contents =
      bif (serve streams q s).1.isOk then q.grantedIn s.contents else s.contents := by
  cases q with
  | putObject | deleteObject | createUpload | uploadFile => rfl
  | getObject o range =>
    simp only [serve, Action.bind_apply, Action.get_apply]
    cases s.contents.object? o with
    | none => rfl
    | some x =>
      simp only [Action.bind_apply, Action.ofExcept_apply]
      cases clip x.data range <;> rfl
  | headObject o =>
    simp only [serve, Action.bind_apply, Action.get_apply]
    cases s.contents.object? o <;> rfl
  | uploadPart o id =>
    simp only [serve, Action.bind_apply, Action.get_apply]
    cases s.contents.uploads.contains id <;> rfl
  | abortUpload o id =>
    simp only [serve, Action.bind_apply, Action.get_apply]
    cases s.contents.uploads.contains id <;> rfl
  | completeUpload o id parts =>
    simp only [serve, Action.bind_apply, Action.get_apply]
    cases s.contents.uploads.get? id with
    | none => rfl
    | some u =>
      simp only []
      cases parts.all fun p => (u.part? p.number).isSome <;> rfl

/-- A request changes the contents if it is granted, and not otherwise. -/
theorem call_contents (plan : Plan Method CannedReply) (streams : StreamPlan) (q : Request)
    (s : Service) :
    (call plan streams q s).2.contents =
      bif grants plan streams s q then q.grantedIn s.contents else s.contents := by
  simp only [call, Action.bind_apply, Action.modify_apply, Action.get_apply, grants]
  rcases plan q.method ((s.note (.request q)).methodCount q.method) with _ | _ | _
  · exact serve_contents streams q _
  · rfl
  · rfl

/-- An upload that is completed is one that the service knows. -/
theorem known_of_grants {o : ObjectId} {id : String} {parts : List CompletedPart}
    (h : grants plan streams s (.completeUpload o id parts) = true) :
    s.contents.uploads.contains id = true := by
  have h := (Bool.and_eq_true_iff.mp h).2
  simp only [serve, Action.bind_apply, Action.get_apply] at h
  cases hu : s.contents.uploads.get? id with
  | none =>
    have hu' : (s.note (.request (.completeUpload o id parts))).contents.uploads.get? id = none := hu
    rw [hu'] at h
    cases h
  | some u => simp [Table.contains, hu]

end Service

/-! ## The ledger -/

/-- What was said about each object and each upload that was created, by name. -/
structure Ledger where
  object : String → Option WriteParams := fun _ => none
  upload : String → Option WriteParams := fun _ => none

namespace Ledger

def setObject (l : Ledger) (path : String) (p : Option WriteParams) : Ledger :=
  { l with object := fun k => if k = path then p else l.object k }

def setUpload (l : Ledger) (id : String) (p : WriteParams) : Ledger :=
  { l with upload := fun k => if k = id then some p else l.upload k }

/-- The ledger once a request is granted. An object that is put together from the parts of an upload is
created with what the upload was begun with. -/
def enter (l : Ledger) (c : Contents) : Request → Ledger
  | .putObject o _ _ p | .uploadFile o _ p _ => l.setObject o.path (some p)
  | .deleteObject o => l.setObject o.path none
  | .createUpload _ p => l.setUpload c.nextUploadId p
  | .completeUpload o id _ => l.setObject o.path (l.upload id)
  | .getObject .. | .headObject _ | .uploadPart .. | .abortUpload .. => l

/-- The ledger and the service once something has been noted. -/
def after (plan : Plan Method CannedReply) (streams : StreamPlan) (s : Ledger × Service) (c : Call) :
    Ledger × Service :=
  (match c with
    | .request q => if s.2.grants plan streams q then s.1.enter s.2.contents q else s.1
    | .closeStream _ => s.1,
    s.2.after plan streams c)

/-- The ledger of what a service has noted since it was in the given state, and where that has led it. -/
def replay (plan : Plan Method CannedReply) (streams : StreamPlan) (s : Service) (notes : List Call) :
    Ledger × Service := notes.foldl (after plan streams) ({}, s)

theorem foldl_after_service {plan : Plan Method CannedReply} {streams : StreamPlan}
    (notes : List Call) (s : Ledger × Service) :
    (notes.foldl (after plan streams) s).2 = notes.foldl (Service.after plan streams) s.2 := by
  induction notes generalizing s with
  | nil => rfl
  | cons c notes ih => exact ih _

end Ledger

/-- What the settings say about encryption was said. -/
def WriteParams.IsEncrypted (settings : Settings) (p : WriteParams) : Prop :=
  p.encryption = (if settings.encrypts then some "aws:kms" else none) ∧
    p.encryptionKey = if settings.encrypts then given settings.encryptionKey else none

theorem isEncrypted_writeParams (settings : Settings) (info : ObjectInfo) :
    (Client.writeParams settings info).IsEncrypted settings := ⟨rfl, rfl⟩

/-- Every object that is there was created with the encryption of the settings, or is not in the ledger
and was there from the start. Every upload was begun with the encryption of the settings. -/
structure Tracks (settings : Settings) (initial : Contents) (l : Ledger) (c : Contents) : Prop where
  object : ∀ {path x}, c.objects.get? path = some x →
    (∃ p, l.object path = some p ∧ p.IsEncrypted settings) ∨
      l.object path = none ∧ initial.objects.get? path = some x
  upload : ∀ {id}, c.uploads.contains id = true →
    ∃ p, l.upload id = some p ∧ p.IsEncrypted settings

namespace Tracks

variable {settings : Settings} {initial c : Contents} {l : Ledger}

theorem put (h : Tracks settings initial l c) (o : ObjectId) (x : StoredObject) {p : WriteParams}
    (hp : p.IsEncrypted settings) : Tracks settings initial (l.setObject o.path (some p)) (c.put o x) where
  object {path y} hy := by
    simp only [Contents.put, Table.get?_insert, beq_iff_eq] at hy
    by_cases hpath : path = o.path
    · exact .inl ⟨p, if_pos hpath, hp⟩
    · simp only [hpath, ite_false] at hy
      simpa only [Ledger.setObject, hpath, ite_false] using h.object hy
  upload := h.upload

theorem delete (h : Tracks settings initial l c) (o : ObjectId) :
    Tracks settings initial (l.setObject o.path none) (c.delete o) where
  object {path y} hy := by
    simp only [Contents.delete, Table.get?_erase, beq_iff_eq] at hy
    by_cases hpath : path = o.path
    · simp [hpath] at hy
    · simp only [hpath, ite_false] at hy
      simpa only [Ledger.setObject, hpath, ite_false] using h.object hy
  upload := h.upload

theorem beginUpload (h : Tracks settings initial l c) (o : ObjectId) (contentType : Option String)
    (metadata : Metadata) {p : WriteParams} (hp : p.IsEncrypted settings) :
    Tracks settings initial (l.setUpload c.nextUploadId p) (c.beginUpload o contentType metadata) where
  object := h.object
  upload {id} hid := by
    by_cases hnew : id = c.nextUploadId
    · exact ⟨p, if_pos hnew, hp⟩
    · simp only [Table.contains, Contents.beginUpload, Table.get?_insert, beq_iff_eq, hnew, ite_false] at hid
      simpa only [Ledger.setUpload, hnew, ite_false] using h.upload hid

theorem changeUpload (h : Tracks settings initial l c) (id : String)
    (f : Store.Upload → Store.Upload) : Tracks settings initial l (c.changeUpload id f) := by
  unfold Contents.changeUpload
  cases hu : c.uploads.get? id with
  | none => exact h
  | some u =>
    refine ⟨h.object, fun {id'} hid' => h.upload ?_⟩
    by_cases hsame : id' = id
    · simp [Table.contains, hsame, hu]
    · simpa only [Table.contains, Table.get?_insert, beq_iff_eq, hsame, ite_false] using hid'

theorem completeUpload (h : Tracks settings initial l c) {id : String}
    (hid : c.uploads.contains id = true) (o : ObjectId) (numbers : List Int) :
    Tracks settings initial (l.setObject o.path (l.upload id)) (c.completeUpload id o numbers) := by
  obtain ⟨p, hp, hencrypted⟩ := h.upload hid
  obtain ⟨u, hu⟩ := Option.isSome_iff_exists.mp hid
  simp only [Contents.completeUpload, hu, hp]
  exact (h.changeUpload id _).put o _ hencrypted

/-- A request that is granted and says what the settings say keeps the ledger right. -/
theorem granted (h : Tracks settings initial l c) {q : Request}
    (hq : ∀ p, q.params? = some p → p.IsEncrypted settings)
    (hknown : ∀ o id parts, q = .completeUpload o id parts → c.uploads.contains id = true) :
    Tracks settings initial (l.enter c q) (q.grantedIn c) := by
  cases q with
  | putObject o body _ p => exact h.put o _ (hq p rfl)
  | uploadFile o content p _ => exact h.put o _ (hq p rfl)
  | deleteObject o => exact h.delete o
  | createUpload o p => exact h.beginUpload o _ _ (hq p rfl)
  | uploadPart _ id => exact h.changeUpload id _
  | abortUpload _ id => exact h.changeUpload id _
  | completeUpload o id parts => exact h.completeUpload (hknown o id parts rfl) o _
  | getObject | headObject => exact h

theorem after {plan : Plan Method CannedReply} {streams : StreamPlan} {s : Ledger × Service}
    {call : Call} (h : Tracks settings initial s.1 s.2.contents)
    (hcall : ∀ q, call = .request q → ∀ p, q.params? = some p → p.IsEncrypted settings) :
    Tracks settings initial (Ledger.after plan streams s call).1
      (Ledger.after plan streams s call).2.contents := by
  cases call with
  | closeStream n => exact h
  | request q =>
    show Tracks settings initial (if s.2.grants plan streams q then s.1.enter s.2.contents q else s.1)
      (Service.call plan streams q s.2).2.contents
    rw [Service.call_contents]
    cases hg : s.2.grants plan streams q with
    | false => exact h
    | true =>
      refine h.granted (hcall q rfl) fun o id parts hq => ?_
      rw [hq] at hg
      exact Service.known_of_grants hg

/-- Requests that say what the settings say keep the ledger right, one after the other. -/
theorem foldl (plan : Plan Method CannedReply) (streams : StreamPlan) (notes : List Call)
    (hnotes : ∀ q, .request q ∈ notes → ∀ p, q.params? = some p → p.IsEncrypted settings)
    (s : Ledger × Service) (h : Tracks settings initial s.1 s.2.contents) :
    Tracks settings initial (notes.foldl (Ledger.after plan streams) s).1
      (notes.foldl (Ledger.after plan streams) s).2.contents := by
  induction notes generalizing s with
  | nil => exact h
  | cons c notes ih =>
    refine ih (fun q hq => hnotes q (.tail _ hq)) _ (h.after fun q hq => hnotes q ?_)
    rw [hq]
    exact .head _

end Tracks

/-! ## Sessions -/

/-- A service over the client. -/
def overClient (settings : Settings) (bucket : String) (plan : Plan Method CannedReply)
    (streams : StreamPlan) (nesting : Nat) : ObjectChannel.Service Service (Body Stream) :=
  ⟨settings, bucket, backend settings plan streams nesting⟩

/-- What the service behind the client has noted in a step. -/
def notedIn (service : ObjectChannel.Service Service (Body Stream)) (limits : Limits)
    (names : ContentType.NameTypes) : Step Service → List Call :=
  Step.added service limits names (·.world.store.calls.toList)

/-- The request is made for a writer or a mirrored channel that the step is about, which says this about
its object. -/
def MadeFor (names : ContentType.NameTypes) (t : Step Service) (info : ObjectInfo) (q : Request) :
    Prop :=
  ∃ name op c, t.command = .use name op ∧ t.before.channels.get? name = some c ∧
    c.info? names = some info ∧ q.object = c.object

/-- A request that is made in a step. If it creates an object it is made for a channel, and describes the
object as the settings and the channel ask for. Otherwise it describes nothing. -/
structure AsConfigured (settings : Settings) (names : ContentType.NameTypes) (t : Step Service)
    (q : Request) : Prop where
  creates : q.method ∈ creating → ∃ info, MadeFor names t info q ∧ Described settings info q.said
  other : q.method ∉ creating → ∀ name ∈ describing, q.said name = none

section

variable {settings : Settings} {bucket : String} {plan : Plan Method CannedReply}
  {streams : StreamPlan} {nesting : Nat} {limits : Limits} {names : ContentType.NameTypes}

/-- **What a step asks for.** The service is where the notes of the step have led it, and what creates an
object says what the settings make of a channel's information. -/
theorem step_noted (s : Session Service) (c : Command) (r : Except Failure Answer) :
    let t : Step Service := ⟨c, s, r⟩
    let service := overClient settings bucket plan streams nesting
    (t.after service limits names).world.store =
        (notedIn service limits names t).foldl (Service.after plan streams) s.world.store ∧
      ∀ q, Call.request q ∈ notedIn service limits names t → ∀ p, q.params? = some p →
        ∃ info, MadeFor names t info q ∧ p = Client.writeParams settings info := by
  intro t service
  obtain ⟨es, hpass, hruns⟩ := Session.perform_passage service limits names s c
  obtain ⟨notes, hstore, hnotes⟩ := noted_of_runs hruns
  have hnoted : notedIn service limits names t = notes := by
    refine Session.Step.added_eq ?_
    show (Session.perform service limits names c s).2.world.store.calls.toList = _
    rw [hstore, Service.foldl_after_calls]
  rw [hnoted]
  refine ⟨hstore, fun q hq p hp => ?_⟩
  obtain ⟨r, x, hx, hleads⟩ := hnotes q hq
  obtain ⟨info, hinfo, rfl⟩ := Option.map_eq_some_iff.mp (hleads.params.symm.trans hp)
  obtain ⟨name, op, channel, hc, hget, hobject, hsaid⟩ := hpass.creates hx hinfo
  exact ⟨info, ⟨name, op, channel, hc, hget, hsaid, hleads.object.trans hobject⟩, rfl⟩

theorem asConfigured_of_noted {t : Step Service} {q : Request}
    (h : ∀ p, q.params? = some p → ∃ info, MadeFor names t info q ∧ p = Client.writeParams settings info) :
    AsConfigured settings names t q where
  creates hq := by
    obtain ⟨p, hp⟩ := mem_creating.mp hq
    obtain ⟨info, hmade, rfl⟩ := h p hp
    exact ⟨info, hmade, described_of_params hp⟩
  other hq _ hname := by
    refine said_of_other ?_ hname
    cases hp : q.params? with
    | none => rfl
    | some p => exact absurd (mem_creating.mpr ⟨p, hp⟩) hq

/-- The service is where the notes of a run have led it. -/
theorem run_noted (settings : Settings) (bucket : String) (plan : Plan Method CannedReply)
    (streams : StreamPlan) (nesting : Nat) (limits : Limits) (names : ContentType.NameTypes)
    (s : Session Service) (cs : List Command) :
    let service := overClient settings bucket plan streams nesting
    let told := run service limits names cs ([], s)
    told.2.world.store = (told.1.reverse.flatMap (notedIn service limits names)).foldl
      (Service.after plan streams) s.world.store := by
  intro service told
  have hstep (s : Session Service) (c : Command) (notes : List Call) (s' : Session Service)
      (h : s'.world.store = notes.foldl (Service.after plan streams)
        (Session.perform service limits names c s).2.world.store) :
      s'.world.store = (notedIn service limits names
        ⟨c, s, (Session.perform service limits names c s).1⟩ ++ notes).foldl
          (Service.after plan streams) s.world.store := by
    rw [List.foldl_append, h]
    exact congrArg (notes.foldl (Service.after plan streams)) (step_noted s c _).1
  obtain ⟨steps, hsteps, hfinal⟩ := Session.run_leads service limits names
    (notedIn service limits names)
    (fun s notes s' => s'.world.store = notes.foldl (Service.after plan streams) s.world.store)
    (fun _ => rfl) hstep cs [] s
  have hsteps : told.1 = steps := hsteps.trans (List.append_nil _)
  rw [hsteps]
  exact hfinal

end

/-- What holds of a session over the client, with the service that it began with and the steps that it
has taken, oldest first. -/
structure CreatesAsConfigured (settings : Settings) (bucket : String) (plan : Plan Method CannedReply)
    (streams : StreamPlan) (nesting : Nat) (limits : Limits) (names : ContentType.NameTypes)
    (initial : Service) (steps : List (Step Service)) (final : Service) : Prop where
  /-- What was noted is what was noted in the steps. -/
  noted : final.calls.toList = initial.calls.toList ++
    steps.flatMap (notedIn (overClient settings bucket plan streams nesting) limits names)
  requests : ∀ t ∈ steps, ∀ q,
    .request q ∈ notedIn (overClient settings bucket plan streams nesting) limits names t →
      AsConfigured settings names t q
  /-- Making the requests over again, with a ledger, leads to the same service. -/
  replayed : (Ledger.replay plan streams initial
    (steps.flatMap (notedIn (overClient settings bucket plan streams nesting) limits names))).2 = final
  /-- Unless an object was there from the start and the ledger has nothing about it, it was created with
  the encryption of the settings. -/
  objects : initial.contents.uploads = .empty → ∀ o x, final.contents.object? o = some x →
    let ledger := (Ledger.replay plan streams initial
      (steps.flatMap (notedIn (overClient settings bucket plan streams nesting) limits names))).1
    (∃ p, ledger.object o.path = some p ∧ p.IsEncrypted settings) ∨
      ledger.object o.path = none ∧ initial.contents.object? o = some x

/-- **Every request that creates an object describes it as configured, and no other request describes
anything**, for any settings, with any channels and any faults. So no object is made, by whichever way of
publishing, but with the encryption of the settings. -/
theorem creates_as_configured (settings : Settings) (bucket : String) (plan : Plan Method CannedReply)
    (streams : StreamPlan) (nesting : Nat) (limits : Limits) (names : ContentType.NameTypes)
    (s : Session Service) (cs : List Command) :
    let told := run (overClient settings bucket plan streams nesting) limits names cs ([], s)
    CreatesAsConfigured settings bucket plan streams nesting limits names s.world.store told.1.reverse
      told.2.world.store := by
  intro told
  let service := overClient settings bucket plan streams nesting
  have hfinal := run_noted settings bucket plan streams nesting limits names s cs
  have hnoted : ∀ t ∈ told.1, ∀ q, Call.request q ∈ notedIn service limits names t → ∀ p,
      q.params? = some p → ∃ info, MadeFor names t info q ∧ p = Client.writeParams settings info :=
    Session.forall_mem_run (fun s c => (step_noted s c _).2) cs fun t ht => by cases ht
  have hreplay : (Ledger.replay plan streams s.world.store
      (told.1.reverse.flatMap (notedIn service limits names))).2 = told.2.world.store := by
    rw [Ledger.replay, Ledger.foldl_after_service]
    exact hfinal.symm
  refine ⟨?_, fun t ht q hq => ?_, hreplay, fun huploads o x hx => ?_⟩
  · rw [← Service.foldl_after_calls]
    exact congrArg (·.calls.toList) hfinal
  · exact asConfigured_of_noted (hnoted t (List.mem_reverse.mp ht) q hq)
  · have hstart : Tracks settings s.world.store.contents {} s.world.store.contents :=
      ⟨fun hx => .inr ⟨rfl, hx⟩, fun hid => by simp [huploads, Table.contains] at hid⟩
    have htracks := Tracks.foldl plan streams (told.1.reverse.flatMap (notedIn service limits names))
      (fun q hq p hp => ?_) ({}, s.world.store) hstart
    · refine htracks.object ?_
      rw [← hx, ← hreplay]
      rfl
    · obtain ⟨t, ht, hq⟩ := List.mem_flatMap.mp hq
      obtain ⟨info, -, rfl⟩ := hnoted t (List.mem_reverse.mp ht) q hq p hp
      exact isEncrypted_writeParams settings info

/-- Settings that ask for encryption with a key of their own. -/
def encrypting : Settings where
  encrypts := true
  encryptionKey := some "key-1"
  storageClass := some "STANDARD_IA"

/-- Objects that are published with one request, in parts, and from a mirror in parallel. -/
def threeWays : List Command :=
  [.openWriter "w" "small" (some "text/plain") .empty, .use "w" (.write (some ⟨#[1]⟩)),
    .use "w" .close, .openWriter "w" "large" none .empty, .use "w" (.write (some ⟨#[1, 2, 3]⟩)),
    .use "w" .close, .openChannel "m" "mirrored" { options := some [.option .write, .option .create] },
    .use "m" (.write (some ⟨#[1, 2]⟩)), .use "m" .close]

theorem creates_as_configured_in_three_ways :
    let told := run (overClient encrypting "bucket" .none (fun _ => {}) 985)
      { minPartSize := 2, maxParts := 1, parallelThreshold := 1 } ContentType.ofName threeWays
      ([], { world := { store := {} } })
    ∀ key ∈ ["small", "large", "mirrored"], ∃ notes x p,
      told.2.world.store.calls.toList = notes ∧
        told.2.world.store.contents.object? ⟨"bucket", key⟩ = some x ∧
        (Ledger.replay .none (fun _ => {}) {} notes).1.object ("bucket/" ++ key) = some p ∧
        p.encryption = some "aws:kms" ∧ p.encryptionKey = some "key-1" := by
  intro told key hkey
  have h := creates_as_configured encrypting "bucket" .none (fun _ => {}) 985
    { minPartSize := 2, maxParts := 1, parallelThreshold := 1 } ContentType.ofName
    { world := { store := {} } } threeWays
  have hthere : (["small", "large", "mirrored"].all fun key =>
      (told.2.world.store.contents.object? ⟨"bucket", key⟩).isSome) = true := by
    decide +kernel
  obtain ⟨x, hx⟩ := Option.isSome_iff_exists.mp (List.all_eq_true.mp hthere key hkey)
  rcases h.objects rfl ⟨"bucket", key⟩ x hx with ⟨p, hp, hencryption, hkey⟩ | ⟨-, hnone⟩
  · exact ⟨_, x, p, h.noted, hx, hp, hencryption, hkey⟩
  · cases hnone

end ObjectChannel.S3
