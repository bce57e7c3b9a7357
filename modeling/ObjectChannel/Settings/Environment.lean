/-
Environment variables, and the settings file that fills in those that are not set.

A line of the file sets a variable if it has an equals sign and is no comment. White space around
name and value does not count, nor do quotation marks around the value. A variable that is set
already, also by an earlier line or to nothing, keeps its value.
-/
import ObjectChannel.Failure
import ObjectChannel.Text.Blank
import ObjectChannel.Text.Lines

namespace ObjectChannel

abbrev Environment := Table String

namespace Environment

def hasNul (s : String) : Bool := s.toList.contains '\x00'

/-- Sets a variable. -/
def set (env : Environment) (name value : String) : Except EnvironmentFault Environment :=
  if hasNul name || hasNul value || name.toList.contains '=' then .error .unusable
  else if name = "" then .error .nameless
  else .ok (env.insert name value)

/-- The variable that a line of the settings file sets, and its value. -/
def ofLine? (line : List Char) : Option (String × String) :=
  let line := Text.strip line
  match line with
  | [] | '#' :: _ => none
  | _ =>
    if line.contains '=' then
      let name := Text.strip (line.takeWhile (· != '='))
      let value := Text.strip ((line.dropWhile (· != '=')).drop 1)
      let value := Text.trimmed (· == '\'') (Text.trimmed (· == '"') value)
      if name.isEmpty then none else some (.ofList name, .ofList value)
    else none

/-- Sets what a line says, unless it is set already. -/
def addLine (env : Environment) (line : List Char) : Except EnvironmentFault Environment :=
  match ofLine? line with
  | some (name, value) => if env.contains name then .ok env else set env name value
  | none => .ok env

/-- Sets what the lines say, as far as they can be set. -/
def addLines (env : Environment) :
    List (List Char) → Except EnvironmentFault Unit × Environment
  | [] => (.ok (), env)
  | line :: rest =>
    match addLine env line with
    | .ok env => addLines env rest
    | .error e => (.error e, env)

/-- Sets what the settings file says, if there is one. -/
def addFile (env : Environment) (file : Option Bytes) :
    Except EnvironmentFault Unit × Environment :=
  match file with
  | none => (.ok (), env)
  | some data =>
    match String.fromUTF8? data with
    | some text => addLines env (Text.lines text.toList)
    | none => (.error .encoding, env)

end Environment
end ObjectChannel
