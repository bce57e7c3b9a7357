/-
The content type that a file name suggests.

The extension decides: what follows the last dot of the last component, dots at its start not
counted. A short form such as `.tgz` is spelled out first, and an extension that tells how the file
is packed is taken off. A name may also be an address with a scheme; one with the scheme `data` says
its type itself.
-/
import ObjectChannel.ContentType.NameTable
import ObjectChannel.Text.Case

namespace ObjectChannel.ContentType

/-- The types that names stand for, as a function from names. -/
abbrev NameTypes := String → Option String

/-- A name in two: what stands before the extension, and the extension with its dot. -/
def splitExtension (name : List Char) : List Char × List Char :=
  let back := name.reverse
  let suffix := back.takeWhile fun c => c != '.' && c != '/'
  match back.dropWhile (fun c => c != '.' && c != '/') with
  | '.' :: rest =>
    if (rest.takeWhile (· != '/')).any (· != '.') then (rest.reverse, '.' :: suffix.reverse)
    else (name, [])
  | _ => (name, [])

/-- The scheme of an address, in small letters, and what follows it. -/
def splitScheme (name : List Char) : Option (String × List Char) :=
  let inScheme := fun c : Char => c != ':' && c != '/'
  match name.takeWhile inScheme, name.dropWhile inScheme with
  | [], _ => none
  | scheme, ':' :: rest => some (Text.lower (.ofList scheme), rest)
  | _, _ => none

/-- The type that an address with its data inside gives for them: what stands before the first
comma, up to a semicolon. What is no type there means plain text. -/
def ofData (rest : List Char) : Option String :=
  if rest.contains ',' then
    let type := (rest.takeWhile (· != ',')).takeWhile (· != ';')
    some (if type.contains '=' || !type.contains '/' then "text/plain" else .ofList type)
  else none

/-- A name in two, with a short extension spelled out; no short form stands for another. -/
def splitSpelled (name : List Char) : List Char × List Char :=
  let (base, ext) := splitExtension name
  match shorthands.lookup (Text.lower (.ofList ext)) with
  | some long => splitExtension (base ++ long.toList)
  | none => (base, ext)

/-- The type for a name that is no address. -/
def ofPath (name : List Char) : Option String :=
  let (base, ext) := splitSpelled name
  let ext := if packings.contains (.ofList ext) then (splitExtension base).2 else ext
  extensionTypes.lookup (Text.lower (.ofList ext))

/-- The type that a name suggests. -/
def ofName : NameTypes := fun name =>
  match splitScheme name.toList with
  | some ("data", rest) => ofData rest
  | some (_, rest) => ofPath rest
  | none => ofPath name.toList

end ObjectChannel.ContentType
