/-
Local files by their paths. A path leads name by name from the root, or from the current directory,
to a place: one dot stays where it is, and two dots go back towards the root. Everything on the way
has to be a directory. What was written at a path is what is read there afterwards (`read_write`).
-/
import ObjectChannel.Failure

namespace ObjectChannel

/-- A place in the tree of directories: the names on the way from the root. -/
abbrev Place := List String

/-- What a path says. -/
structure Path where
  /-- It leads from the root. -/
  absolute : Bool
  names : List String
  /-- It ends in a slash, so that it means a directory. -/
  slash : Bool
  deriving DecidableEq, Inhabited

/-- The path of a place. -/
def Place.path (p : Place) : String := "/" ++ "/".intercalate p

namespace Path

/-- The most bytes that a path, and a name in it, may have. -/
def maxLength : Nat := 4095

def maxName : Nat := 255

/-- The path that a text is. -/
def ofText (s : String) : Except Failure Path :=
  if s.toList.contains '\x00' then .error .unusablePath
  else if s = "" then .error (.system .missing)
  else if maxLength < s.utf8ByteSize then .error (.system .nameTooLong)
  else .ok {
    absolute := s.toList.head? = some '/'
    names := (s.splitOn "/").filter (· != "")
    slash := s.toList.getLast? = some '/' }

end Path

/-- Where a name leads from a place. -/
def Place.next (p : Place) (name : String) : Place :=
  if name = "." then p else if name = ".." then p.dropLast else p ++ [name]

structure Files where
  /-- The contents of the files, by the paths of their places. -/
  contents : Table Bytes := Table.empty
  directories : List Place := [[]]
  /-- The directory that paths lead from that do not lead from the root. -/
  current : Place := []
  deriving Inhabited

namespace Files

def isDirectory (f : Files) (p : Place) : Bool := f.directories.contains p

def isFile (f : Files) (p : Place) : Bool := f.contents.contains (Place.path p)

/-- Makes sure that a place is a directory. -/
def enter (f : Files) (p : Place) : Except SystemFault Unit :=
  if f.isDirectory p then .ok ()
  else if f.isFile p then .error .notDirectory
  else .error .missing

/-- Goes on from a place to what has the name there. -/
def step (f : Files) (p : Place) (name : String) : Except SystemFault Place := do
  f.enter p
  if Path.maxName < name.utf8ByteSize then .error .nameTooLong else .ok (Place.next p name)

/-- The place at the end of some names. -/
def walk (f : Files) (p : Place) (names : List String) : Except SystemFault Place :=
  names.foldlM f.step p

def start (f : Files) (path : Path) : Place := if path.absolute then [] else f.current

/-- The place that a path leads to. -/
def locate (f : Files) (path : Path) : Except SystemFault Place := f.walk (f.start path) path.names

/-- The content of the file that a path leads to. -/
def contentAt (f : Files) (path : Path) : Except SystemFault Bytes := do
  let place ← f.locate path
  if f.isDirectory place then .error .isDirectory
  else
    match f.contents.get? (Place.path place) with
    | none => .error .missing
    | some data => if path.slash then .error .notDirectory else .ok data

/-- The place of the file that a path leads to, which need not be there; the directory that it lies
in has to be. -/
def target (f : Files) (path : Path) : Except SystemFault Place := do
  f.enter (← f.walk (f.start path) path.names.dropLast)
  if path.slash then .error .isDirectory
  else
    let place ← f.locate path
    if f.isDirectory place then .error .isDirectory else .ok place

/-- An answer of the file system, with its faults among all others. -/
def answered {α : Type} : Except SystemFault α → Except Failure α
  | .ok a => .ok a
  | .error e => .error (.system e)

/-- The content of the file at a path. -/
def read (f : Files) (path : String) : Except Failure Bytes := do
  answered (f.contentAt (← Path.ofText path))

/-- Puts a content into the file at a place. -/
def put (f : Files) (p : Place) (data : Bytes) : Files :=
  { f with contents := f.contents.insert (Place.path p) data }

/-- Puts a content into the file at a path, which is made if there is none. -/
def write (f : Files) (path : String) (data : Bytes) : Except Failure Files := do
  return f.put (← answered (f.target (← Path.ofText path))) data

/-- The files that lie in a directory, by their names there. -/
def list (f : Files) (p : Place) : List (String × Bytes) :=
  let way := (Place.path p).toList ++ ['/']
  f.contents.entries.filterMap fun (path, data) =>
    let name := path.toList.drop way.length
    if way.isPrefixOf path.toList && !name.contains '/' then some (.ofList name, data) else none

/-! ## What was written is read -/

private theorem ok_of_bind {ε α β : Type} {x : Except ε α} {k : α → Except ε β} {b : β}
    (h : (x >>= k) = .ok b) : ∃ a, x = .ok a ∧ k a = .ok b := by
  cases x with
  | error e => simp [bind, Except.bind] at h
  | ok a => exact ⟨a, rfl, h⟩

theorem enter_eq_ok {f : Files} {p : Place} : f.enter p = .ok () ↔ f.isDirectory p = true := by
  unfold enter
  split
  · next h => simp [h]
  · next h => split <;> simp [h]

theorem step_of_directories {f g : Files} (h : g.directories = f.directories) {p q : Place}
    {name : String} (hs : f.step p name = .ok q) : g.step p name = .ok q := by
  obtain ⟨_, he, hn⟩ := ok_of_bind hs
  have hg : g.enter p = .ok () := enter_eq_ok.2 (by
    rw [isDirectory, h]
    exact enter_eq_ok.1 he)
  rw [step, hg]
  exact hn

theorem walk_of_directories {f g : Files} (h : g.directories = f.directories) {names : List String}
    {p q : Place} (hw : f.walk p names = .ok q) : g.walk p names = .ok q := by
  induction names generalizing p with
  | nil => exact hw
  | cons name names ih =>
    rw [walk, List.foldlM_cons] at hw ⊢
    obtain ⟨r, hs, hr⟩ := ok_of_bind hw
    rw [step_of_directories h hs]
    exact ih hr

/-- A file that can be written lies where its path leads to, and is no directory. -/
theorem target_eq_ok {f : Files} {path : Path} {p : Place} (h : f.target path = .ok p) :
    path.slash = false ∧ f.locate path = .ok p ∧ f.isDirectory p = false := by
  obtain ⟨_, _, h⟩ := ok_of_bind h
  obtain ⟨_, _, h⟩ := ok_of_bind h
  split at h
  · simp at h
  · next hs =>
    obtain ⟨q, hl, h⟩ := ok_of_bind h
    split at h
    · simp at h
    · next hd =>
      obtain rfl : q = p := by simpa using h
      exact ⟨by simpa using hs, hl, by simpa using hd⟩

theorem contentAt_put {f : Files} {path : Path} {p : Place} {data : Bytes}
    (h : f.target path = .ok p) : (f.put p data).contentAt path = .ok data := by
  obtain ⟨hs, hl, hd⟩ := target_eq_ok h
  have hl : (f.put p data).locate path = .ok p := walk_of_directories (f := f) (g := f.put p data) rfl hl
  have hd : (f.put p data).isDirectory p = false := hd
  have hc : (f.put p data).contents.get? (Place.path p) = some data := Table.get?_insert_self ..
  rw [contentAt, hl]
  simp [bind, Except.bind, hd, hc, hs]

/-- What is written at a path is read there. -/
theorem read_write {f g : Files} {path : String} {data : Bytes} (h : f.write path data = .ok g) :
    g.read path = .ok data := by
  obtain ⟨p, hp, h⟩ := ok_of_bind h
  obtain ⟨place, ht, hg⟩ := ok_of_bind h
  have ht : f.target p = .ok place := by
    cases hx : f.target p <;> simp_all [answered]
  obtain rfl : f.put place data = g := by simpa [pure, Except.pure] using hg
  rw [read, hp]
  simp [bind, Except.bind, contentAt_put ht, answered]

theorem target_put {f : Files} {path : Path} {p : Place} (data : Bytes) (h : f.target path = .ok p) :
    (f.put p data).target path = .ok p := by
  have hdirectories : (f.put p data).directories = f.directories := rfl
  obtain ⟨hs, hl, hd⟩ := target_eq_ok h
  obtain ⟨q, hw, h⟩ := ok_of_bind h
  obtain ⟨_, he, -⟩ := ok_of_bind h
  have hd' : (f.put p data).isDirectory p = false := hd
  have hw' : (f.put p data).walk ((f.put p data).start path) path.names.dropLast = .ok q :=
    walk_of_directories hdirectories hw
  have he' : (f.put p data).enter q = .ok () := enter_eq_ok.2 (enter_eq_ok (f := f).1 he)
  have hl' : (f.put p data).locate path = .ok p := walk_of_directories hdirectories hl
  rw [target, hw', hl']
  simp [bind, Except.bind, he', hs, hd']

/-- Where something was written, something else can be written. -/
theorem write_write {f g : Files} {path : String} {data : Bytes} (h : f.write path data = .ok g)
    (more : Bytes) : ∃ g', g.write path more = .ok g' := by
  obtain ⟨p, hp, h⟩ := ok_of_bind h
  obtain ⟨place, ht, hg⟩ := ok_of_bind h
  have ht : f.target p = .ok place := by
    cases hx : f.target p <;> simp_all [answered]
  obtain rfl : f.put place data = g := by simpa [pure, Except.pure] using hg
  rw [write, hp]
  simp [bind, Except.bind, target_put data ht, answered, pure, Except.pure]

end Files
end ObjectChannel
