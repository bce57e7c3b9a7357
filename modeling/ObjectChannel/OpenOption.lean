/-
How a random-access channel is opened. No option at all means reading. A file that may not be
written may be read; appending is a way of writing; only a writable file is emptied on opening.
-/
import ObjectChannel.Failure

namespace ObjectChannel

inductive OpenOption where
  | read
  | write
  | append
  | create
  | createNew
  | truncateExisting
  | deleteOnClose
  deriving DecidableEq, Inhabited

namespace OpenOption

def name : OpenOption → String
  | .read => "read"
  | .write => "write"
  | .append => "append"
  | .create => "create"
  | .createNew => "create_new"
  | .truncateExisting => "truncate_existing"
  | .deleteOnClose => "delete_on_close"

def all : List OpenOption :=
  [.read, .write, .append, .create, .createNew, .truncateExisting, .deleteOnClose]

end OpenOption

/-- A thing given where an open option belongs. -/
inductive GivenOption where
  | option (o : OpenOption)
  | other (v : Value)
  deriving Inhabited

/-- The options of a channel, each at most once. -/
structure OpenOptions where
  toList : List OpenOption
  deriving DecidableEq, Inhabited

namespace OpenOptions

def has (os : OpenOptions) (o : OpenOption) : Bool := os.toList.contains o

/-- The set of the given options; none at all means reading. -/
def ofList (l : List OpenOption) : OpenOptions :=
  if l.isEmpty then ⟨[.read]⟩ else ⟨l.eraseDups⟩

/-- Lists and objects cannot be members of a set. -/
def memberFault : GivenOption → Option Failure
  | .other (.list _) | .other (.object _) => some .notAMember
  | _ => none

/-- The complaint about something that is not an option. It is no list and no object, so that it has one
level alone. -/
def optionFault : GivenOption → Option Failure
  | .other v =>
    match v.quoted 1 with
    | .ok shown => some (.openOption shown)
    | .error why => some (.unwritable why)
  | .option _ => none

/-- The options in what a caller gave, refusing whatever is not one. -/
def ofGiven (given : Option (List GivenOption)) : Except Failure OpenOptions :=
  let l := given.getD []
  match l.findSome? memberFault with
  | some e => .error e
  | none =>
    match l.findSome? optionFault with
    | some e => .error e
    | none => .ok (ofList (l.filterMap fun | .option o => some o | .other _ => none))

/-- The names of the options, sorted. -/
def names (os : OpenOptions) : List String := (os.toList.map (·.name)).mergeSort (· ≤ ·)

/-- The options are reading and nothing else. -/
def isReadOnly (os : OpenOptions) : Bool := os.toList == [.read]

def isAppending (os : OpenOptions) : Bool := os.has .append

def isWritable (os : OpenOptions) : Bool := os.isAppending || os.has .write

def isReadable (os : OpenOptions) : Bool := os.has .read || !os.isWritable

/-- Whether opening empties the file. -/
def truncates (os : OpenOptions) : Bool := os.isWritable && os.has .truncateExisting

/-- Whether a missing object is made. -/
def creates (os : OpenOptions) : Bool := os.has .create || os.has .createNew

end OpenOptions

/-- The access to the mirror file that a set of options comes down to. -/
inductive FileAccess where
  | readOnly
  | writeOnly
  | readWrite
  deriving DecidableEq, Inhabited

def OpenOptions.access (os : OpenOptions) : FileAccess :=
  match os.isReadable, os.isWritable with
  | true, true => .readWrite
  | false, true => .writeOnly
  | _, false => .readOnly

/-- The access as the short mode of file libraries. -/
def OpenOptions.mode (os : OpenOptions) : String :=
  match os.access with
  | .readWrite => if os.isAppending then "a+" else "r+"
  | .writeOnly => if os.isAppending then "a" else "w"
  | .readOnly => "r"

end ObjectChannel
