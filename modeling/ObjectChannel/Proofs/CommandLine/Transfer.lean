/-
What the tasks of a command line come to over a plain store: a file is stored whole, an object that is
there is fetched whole into a file, and the stretch of it that is asked for is shown. The sizes that
files, parts, streams and reads come in do not matter.
-/
import ObjectChannel.Proofs.Looks
import ObjectChannel.Proofs.Plain.Publication
import ObjectChannel.Proofs.Plain.Reading

namespace ObjectChannel

namespace CommandLine

open ChannelAction Console Mirrored

variable {σ τ : Type} {W : World σ}

/-! ## Copying a mirror -/

/-- A piece of a mirror is what comes next in it, as much as moves at a time. -/
theorem read_of_room {p : Platform} {size : Int} (hroom : p.HasRoom size) {m : Mirrored}
    (hopen : m.closed = false) (hreadable : m.file.isReadable = true) :
    Mirrored.read p (some size) (m, W) =
      (.ok (m.file.take (p.moved size.toNat)).1,
        ({ m with file := (m.file.take (p.moved size.toNat)).2 }, W)) := by
  have hnegative : ¬size < 0 := Int.not_lt.mpr hroom.1
  have hread : m.file.read p (some size) = .ok (m.file.take (p.moved size.toNat)) := by
    simp only [LocalFile.read, Option.getD_some, hroom.fitsWord, hreadable, hnegative,
      hroom.capacity hroom.le_maxFresh]
    rfl
  simp only [Mirrored.read, onFile_apply hopen, hread]

/-- Copying goes on until the file at the path has all of the mirror that is behind its cursor. -/
theorem copyPieces_brings {p : Platform} {size : Int} (hsize : 0 < size) (hroom : p.HasRoom size)
    {path : String} {m : Mirrored} {c : Console σ} {got : Bytes} (hopen : m.closed = false)
    (hreadable : m.file.isReadable = true) (hgot : c.files.read path = .ok got)
    (hwrite : ∀ data, ∃ files, c.files.write path data = .ok files) :
    ∃ files, Console.copyPieces p size path got m c =
        some (.ok (got ++ m.file.content.drop m.file.cursor), { c with files }) ∧
      files.read path = .ok (got ++ m.file.content.drop m.file.cursor) := by
  have hpos : 0 < p.moved size.toNat := by
    have := p.transferMax_pos
    simp only [Platform.moved]
    omega
  -- every piece that is not empty leaves less behind the cursor
  induction hn : m.file.rest using Nat.strongRecOn generalizing m c got with
  | _ n ih =>
    obtain ⟨piece, l, htake⟩ : ∃ piece l, m.file.take (p.moved size.toNat) = (piece, l) :=
      ⟨_, _, rfl⟩
    have hpiece : m.file.content.slice m.file.cursor (m.file.cursor + p.moved size.toNat) = piece :=
      congrArg Prod.fst htake
    have hrestSize : piece.size = min (p.moved size.toNat) m.file.rest := by
      rw [← hpiece, Bytes.size_slice, LocalFile.rest]
      omega
    obtain rfl : { m.file with cursor := m.file.cursor + piece.size } = l := by
      rw [← hpiece]
      exact congrArg Prod.snd htake
    have hdrop := Bytes.drop_eq_slice_append m.file.content m.file.cursor (p.moved size.toNat)
    rw [hpiece] at hdrop
    rw [Console.copyPieces, read_of_room hroom hopen hreadable, htake]
    by_cases hempty : piece.size = 0
    · have hisEmpty : piece.isEmpty = true := Bytes.isEmpty_iff.mpr hempty
      have hnone : m.file.content.drop m.file.cursor = .empty :=
        ByteArray.size_eq_zero_iff.mp (by rw [Bytes.size_drop]; rw [LocalFile.rest] at hrestSize; omega)
      simp only [hisEmpty, ite_true, hnone, ByteArray.append_empty]
      exact ⟨c.files, rfl, hgot⟩
    · have hisEmpty : piece.isEmpty = false := Bytes.isEmpty_eq_false hempty
      obtain ⟨files, hfiles⟩ := hwrite (got ++ piece)
      let m' : Mirrored :=
        { m with file := { m.file with cursor := m.file.cursor + piece.size } }
      have hopen' : m'.closed = false := hopen
      have hreadable' : m'.file.isReadable = true := hreadable
      have hless : m'.file.rest < n := by
        simp only [m', LocalFile.rest] at hrestSize hn ⊢
        omega
      obtain ⟨files', hcopy, hread⟩ := ih _ hless (c := { c with files }) hopen' hreadable'
        (Files.read_write hfiles) (Files.write_write hfiles) rfl
      simp only [hisEmpty, Bool.false_eq_true, ite_false, writeFile, hfiles]
      rw [hdrop, ← ByteArray.append_assoc]
      exact ⟨files', hcopy, hread⟩

/-- A mirror that was just opened for reading is copied whole, whatever the size of the pieces. -/
theorem copyMirror_of_opened {p : Platform} {size : Int} (hsize : 0 < size) (hroom : p.HasRoom size)
    {path : String} {m : Mirrored} {os : OpenOptions} {data : Bytes} {c : Console σ}
    {files₀ files : Files} (hopen : m.closed = false) (hfile : m.file = .opened os data)
    (hread : os.isReadOnly = true) (htarget : files₀.write path .empty = .ok files) :
    ∃ files', copyMirror p size path m { c with files } = (.ok data, { c with files := files' }) ∧
      files'.read path = .ok data := by
  obtain rfl : os = ⟨[.read]⟩ := by
    obtain ⟨l⟩ := os
    exact congrArg OpenOptions.mk (eq_of_beq hread)
  have hreadable : m.file.isReadable = true := by
    rw [hfile]
    rfl
  have hall : ByteArray.empty ++ m.file.content.drop m.file.cursor = data := by
    have hcontent : m.file.content = data := by rw [hfile]; rfl
    have hcursor : m.file.cursor = 0 := by rw [hfile]; rfl
    rw [hcontent, hcursor, ByteArray.empty_append]
    exact Bytes.ext_toList (by simp)
  have hzero : ¬size = 0 := by omega
  obtain ⟨files', hcopy, hcopied⟩ := copyPieces_brings (c := { c with files }) hsize hroom hopen
    hreadable (Files.read_write htarget) (Files.write_write htarget)
  rw [hall] at hcopy hcopied
  refine ⟨files', ?_, hcopied⟩
  simp only [copyMirror, hzero, ite_false, hcopy, Option.getD_some]

/-- A mirror that was opened for reading is closed without a request. -/
theorem close_of_readOnly (b : Backend σ τ) (limits : Limits) (names : ContentType.NameTypes)
    {m : Mirrored} (hopen : m.closed = false) (hread : m.options.isReadOnly = true) :
    Mirrored.close b limits names (m, W) =
      (.ok (), ({ m with closed := true }, { W with mirrors := W.mirrors.remove m.mirror })) := by
  rw [close_of_open hopen]
  simp only [finish, OpenOptions.has_of_isReadOnly hread (o := .deleteOnClose) (by decide), hread,
    Bool.false_eq_true, ite_false, ite_true]
  rfl

/-! ## Storing a file -/

/-- Nothing is lost in the pieces that a file is read in. -/
theorem piecesOf_whole {p : Platform} (data : Bytes) {size : Int} (hsize : 0 < size)
    (hroom : p.HasRoom size) :
    ∃ pieces, piecesOf p data size = .ok pieces ∧ Bytes.concat pieces = data := by
  have hall : ¬size = -1 := by omega
  refine ⟨data.pieces size.toNat, ?_, Bytes.concat_pieces (by omega) data⟩
  rw [piecesOf, if_neg hall, hroom.capacity hroom.le_maxFresh]
  rfl

variable {s : Service σ τ} {P : s.backend.Plain} {limits : Limits} {key : String} {o : ObjectId}
  {c : Console σ} {data : Bytes}

theorem onWorld_apply {α : Type} (x : Action (World σ) α) (c : Console σ) :
    onWorld x c = ((x c.world).1, { c with world := (x c.world).2 }) := rfl

theorem upload_whole (hcopy : 0 < limits.copyChunk) (hroom : limits.platform.HasRoom limits.copyChunk)
    (hfits : limits.Holds data) (hkey : s.objectId key = .ok o) {source : String}
    (hsource : c.files.read source = .ok data) :
    ∃ W', upload s limits source (some key) c = (.ok data.size, { c with world := W' }) ∧
      Writer.Publishes P o data c.world W' := by
  obtain ⟨pieces, hpieces, hwhole⟩ := piecesOf_whole data hcopy hroom
  have hwriter : s.openWriter key none Table.empty =
      .ok { object := o, info := { storageClass := s.settings.storageClass } } := by
    rw [Service.openWriter, hkey]
    rfl
  have hfits : limits.Holds (Bytes.concat pieces) := by rw [hwhole]; exact hfits
  obtain ⟨s', hpublish, hs'⟩ := publishPieces_publishes P o
    { storageClass := s.settings.storageClass } c.world hfits
  rw [hwhole] at hpublish hs'
  refine ⟨s'.2, ?_, hs'⟩
  simp only [upload, Action.bind_apply, readFile, hsource, Action.ofExcept_apply, hwriter, hpieces,
    onWorld_apply, runOn, hpublish]

/-! ## Fetching an object -/

variable {x : StoredObject}

theorem download_whole (hcopy : 0 < limits.copyChunk) (hroom : limits.platform.HasRoom limits.copyChunk)
    (hkey : s.objectId key = .ok o) (hx : (P.contents c.world.store).object? o = some x)
    (hdirectory : s.settings.mirrorDirectory.all c.world.mirrors.hasDirectory = true)
    {target : String} {files : Files} (htarget : c.files.write target .empty = .ok files) :
    ∃ files' W', download s limits key (some target) c =
        (.ok x.data.size, { c with files := files', world := W' }) ∧
      files'.read target = .ok x.data ∧ s.backend.Looks c.world.store W'.store := by
  let q : OpenRequest := {
    options := some [.option .read]
    directory := s.settings.mirrorDirectory
    detects := s.settings.detectsContentType }
  let m := ofContent o q ⟨[.read]⟩ (c.world.mirrors.fresh q.directory) x.data
  have hoptions : OpenOptions.ofGiven q.options = .ok ⟨[.read]⟩ := rfl
  obtain ⟨W₁, hopen, -, -⟩ := open_of_object limits hoptions rfl hx hdirectory
  have hlooks := open_looks (b := s.backend) limits o q c.world
  rw [hopen] at hlooks
  obtain ⟨files', hcopied, hread⟩ := copyMirror_of_opened (c := { c with world := W₁ }) hcopy hroom
    (m := m) rfl rfl rfl htarget
  have hclose := close_of_readOnly s.backend limits ContentType.ofName (m := m) (W := W₁) rfl rfl
  have hchannel : onWorld (s.openChannel limits key { options := some [.option .read] }) c =
      (.ok m, { c with world := W₁ }) := by
    simp only [onWorld_apply, Service.openChannel, Action.bind_apply, Action.ofExcept_apply, hkey]
    exact congrArg (fun y : Except Failure Mirrored × World σ => (y.1, { c with world := y.2 })) hopen
  refine ⟨files', { W₁ with mirrors := W₁.mirrors.remove m.mirror }, ?_, hread, hlooks⟩
  simp only [download, Action.bind_apply, hchannel, Action.ensuring_apply, writeFile, htarget,
    hcopied, Action.pure_apply, onWorld_apply, runOn, hclose]

/-! ## Showing a stretch -/

theorem reader_of_offset (o : ObjectId) {offset : Int} (h : 0 ≤ offset) :
    (do Reader.opened o (← numberOf (some offset)) : Except Failure Reader) =
      .ok { object := o, position := offset.toNat } := if_neg (Int.not_lt.mpr h)

theorem readRange_stretch {offset length : Int} (hoffset : 0 ≤ offset) (hread : 0 < limits.readSize)
    (hroom : limits.platform.HasRoom limits.readSize) (hlength : length ≤ limits.platform.room)
    (hkey : s.objectId key = .ok o) (hx : (P.contents c.world.store).object? o = some x)
    (hreach : length ≠ 0 → ∀ j ≤ Reader.furthest limits x.data offset.toNat length, P.Reaches j) :
    ∃ W', readRange s limits key (some offset) (some length) c =
        (.ok (x.data.stretch offset.toNat length), { c with world := W' }) ∧
      s.backend.Looks c.world.store W'.store := by
  obtain ⟨s', hstretch, -⟩ := Reader.read_of_object (P := P) (W := c.world)
    (r := { object := o, position := offset.toNat }) rfl hx hread hroom hlength hreach
  have hlooks := Reader.read_onlyLooks (b := s.backend) limits (some length)
    ({ object := o, position := offset.toNat }, c.world)
  rw [hstretch] at hlooks
  refine ⟨s'.2, ?_, hlooks⟩
  have hsize : numberOf (some length) = .ok length := rfl
  simp only [readRange, Action.bind_apply, Action.ofExcept_apply, hkey, reader_of_offset o hoffset, hsize,
    onWorld_apply, runOn, hstretch]

end CommandLine

end ObjectChannel
