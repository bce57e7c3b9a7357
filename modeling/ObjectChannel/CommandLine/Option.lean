/-
The words of a command line, told apart. A word is an argument, or an option; behind the mark `--`
every word is an argument.

An option has a name of its own or the beginning of one, as long as it fits one name only, and a
value may be joined to it by an equals sign. A word that looks like an option is an argument all the
same if it is a negative number, or if it holds a blank and is the name of no option.
-/
import ObjectChannel.Text.Digit
import ObjectChannel.Text.Span

namespace ObjectChannel.CommandLine

/-- Why a command line is not carried out. -/
inductive Stop where
  /-- Help was asked for. -/
  | help
  /-- It is none that makes sense. -/
  | usage
  deriving DecidableEq, Inhabited

/-- A word of a command line, by the part it plays. -/
inductive Word where
  | argument (text : String)
  /-- The mark behind which nothing is an option. -/
  | mark
  /-- The option that asks for help, or one that tries to and does not make sense. -/
  | stop (why : Stop)
  /-- An option that takes a value, which may be joined to it. -/
  | option (name : String) (value : Option String)
  /-- Something like an option that is none. -/
  | unknown
  deriving DecidableEq, Inhabited

namespace Word

/-- A minus sign and digits, with one point among them or before them. -/
def isNegativeNumber (s : List Char) : Bool :=
  match s with
  | '-' :: rest =>
    let isDigit (c : Char) : Bool := (Text.digitValue? c).isSome
    let rest := if rest.getLast? = some '\n' then rest.dropLast else rest
    match rest.dropWhile isDigit with
    | [] => !rest.isEmpty
    | '.' :: fraction => !fraction.isEmpty && fraction.all isDigit
    | _ => false
  | _ => false

/-- A word that starts like an option and is the name of none. -/
def nameless (s : List Char) : Word :=
  if isNegativeNumber s || s.contains ' ' then .argument (.ofList s) else .unknown

/-- The option of a name, with what is behind the name: nothing, or an equals sign and a value. -/
def named (name : String) (tail : List Char) : Word :=
  if name = "--help" then .stop (if tail.isEmpty then .help else .usage)
  else
    match tail with
    | [] => .option name none
    | _ :: value => .option name (some (.ofList value))

/-- A word that starts with two dashes, where `options` are the names of the options that take
values. -/
def ofLong (options : List String) (s : List Char) : Except Stop Word :=
  let names := "--help" :: options
  let name := s.takeWhile (· != '=')
  let tail := s.dropWhile (· != '=')
  if names.contains (.ofList name) then .ok (named (.ofList name) tail)
  else
    match names.filter fun n => name.isPrefixOf n.toList with
    | [] => .ok (nameless s)
    | [n] => .ok (named n tail)
    | _ => .error .usage

/-- What the short option for help comes to with something joined to it, by an equals sign or without
one. Nothing but the same letter again may be joined. -/
def shortHelp : List Char → Stop
  | [] => .help
  | ['='] => .usage
  | '=' :: letters | letters => if letters.all (· == 'h') then .help else .usage

/-- A word in front of the mark. -/
def ofText (options : List String) (s : String) : Except Stop Word :=
  match s.toList with
  | '-' :: '-' :: rest => ofLong options ('-' :: '-' :: rest)
  | '-' :: 'h' :: joined => .ok (.stop (shortHelp joined))
  | '-' :: c :: rest => .ok (nameless ('-' :: c :: rest))
  | _ => .ok (.argument s)

/-- The words of a command line. -/
def ofTexts (options : List String) : List String → Except Stop (List Word)
  | [] => .ok []
  | s :: rest =>
    if s = "--" then .ok (.mark :: rest.map .argument)
    else
      match ofText options s, ofTexts options rest with
      | .error e, _ => .error e
      | _, .error e => .error e
      | .ok w, .ok ws => .ok (w :: ws)

end Word
end ObjectChannel.CommandLine
