/-
What a command line asks for: to store a file as an object, to fetch an object into a file, or to
show a range of an object.
-/
import ObjectChannel.CommandLine.Option
import ObjectChannel.Text.Integer

namespace ObjectChannel.CommandLine

/-- A task. The second name is none where only a second mark stands in its place, and a number is none
where a mark is joined to its option. -/
inductive Task where
  | upload (source : String) (key : Option String)
  | download (key : String) (target : Option String)
  | readRange (key : String) (offset length : Option Int)
  deriving DecidableEq, Inhabited

structure Invocation where
  /-- The bucket to work on, in place of that of the settings. -/
  bucket : Option String := none
  task : Task
  deriving DecidableEq, Inhabited

/-- What a text says in the place of an argument or of a value. A mark says nothing there. -/
def unlessMark (text : String) : Option String := if text = "--" then none else some text

/-- What the words behind the name of a task say. -/
structure Given where
  /-- The arguments in order; none for a second mark in the place of one. -/
  arguments : List (Option String) := []
  /-- The numbers that options have, the last one first; none for a mark in the place of one. -/
  numbers : List (String × Option Int) := []
  /-- Whether there are words that have no place. -/
  surplus : Bool := false
  deriving DecidableEq, Inhabited

namespace Given

def addArgument (g : Given) (a : Option String) : Given := { g with arguments := g.arguments ++ [a] }

/-- Takes the value of an option, which has to be a number, or a mark. -/
def addNumber (g : Given) (name value : String) : Except Stop Given :=
  match unlessMark value with
  | none => .ok { g with numbers := (name, none) :: g.numbers }
  | some value =>
    match Text.integer? value with
    | some n => .ok { g with numbers := (name, some n) :: g.numbers }
    | none => .error .usage

/-- Takes the words one by one; `wanted` arguments have a place. A mark goes with the argument
behind it, or else with the one before it. -/
def read (wanted : Nat) (g : Given) : List Word → Except Stop Given
  | [] => .ok g
  | .stop why :: _ => .error why
  | .unknown :: rest => read wanted { g with surplus := true } rest
  | .option name (some value) :: rest =>
    match g.addNumber name value with
    | .ok g => read wanted g rest
    | .error e => .error e
  | .option name none :: .argument value :: rest =>
    match g.addNumber name value with
    | .ok g => read wanted g rest
    | .error e => .error e
  | .option _ none :: _ => .error .usage
  | .mark :: .argument a :: rest =>
    match wanted with
    | 0 => read 0 { g with surplus := true } rest
    | n + 1 => read n (g.addArgument (some a)) rest
  | .mark :: rest => read wanted { g with surplus := true } rest
  | .argument a :: .mark :: rest =>
    match wanted with
    | 0 => read 0 { g with surplus := true } rest
    | n + 1 => read n (g.addArgument (some a)) rest
  | .argument a :: rest =>
    match wanted with
    | 0 => read 0 { g with surplus := true } rest
    | n + 1 => read n (g.addArgument (unlessMark a)) rest

end Given

namespace Task

/-- The task of two names. -/
def ofNames (task : String → Option String → Task) (words : List Word) : Except Stop (Task × Bool) := do
  let g ← Given.read 2 {} words
  match g.arguments with
  | [some a, b] => .ok (task a b, g.surplus)
  | _ => .error .usage

def ofRange (words : List Word) : Except Stop (Task × Bool) := do
  let g ← Given.read 1 {} words
  match g.arguments, g.numbers.lookup "--length" with
  | [some key], some length =>
    .ok (.readRange key ((g.numbers.lookup "--offset").getD (some 0)) length, g.surplus)
  | _, _ => .error .usage

/-- The task of a name and the words behind it, and whether some of them have no place. -/
def ofTexts (name : String) (rest : List String) : Except Stop (Task × Bool) :=
  match name with
  | "upload" => do ofNames .upload (← Word.ofTexts [] rest)
  | "download" => do ofNames .download (← Word.ofTexts [] rest)
  | "read-range" => do ofRange (← Word.ofTexts ["--offset", "--length"] rest)
  | _ => .error .usage

end Task

namespace Invocation

/-- The words in front of the task's name, and then the task. `bucket` is what the last option said,
and `surplus` tells whether there were words that have no place. -/
def read (bucket : Option String) (surplus : Bool) : List (Word × String) → Except Stop Invocation
  | [] => .error .usage
  | (.stop why, _) :: _ => .error why
  | (.unknown, _) :: rest => read bucket true rest
  | (.option _ (some value), _) :: rest => read (unlessMark value) surplus rest
  | (.option _ none, _) :: (.argument value, _) :: rest => read (some value) surplus rest
  | (.option _ none, _) :: _ => .error .usage
  | (.mark, _) :: _ => .error .usage
  | (.argument name, _) :: rest => do
    let (task, surplus') ← Task.ofTexts name (rest.map (·.2))
    if surplus || surplus' then .error .usage else .ok { bucket, task }

/-- What the words of a command line ask for. All of them are told apart first, and words without a
place are refused last. -/
def ofTexts (texts : List String) : Except Stop Invocation := do
  let words ← Word.ofTexts ["--bucket"] texts
  read none false (words.zip texts)

end Invocation
end ObjectChannel.CommandLine
