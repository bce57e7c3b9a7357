/-
Settings: how to reach the store, how objects are written, where mirrors lie, and what is logged
and measured.
-/
import ObjectChannel.Failure
import ObjectChannel.Text.Blank
import ObjectChannel.Text.Case

namespace ObjectChannel

/-- How a bucket is written into an address. -/
inductive AddressingStyle where
  | path
  | virtual
  | auto
  deriving DecidableEq, Inhabited

namespace AddressingStyle

def name : AddressingStyle → String
  | .path => "path"
  | .virtual => "virtual"
  | .auto => "auto"

/-- The style that a text names; white space around it and the case of its letters do not matter. -/
def ofText? (s : String) : Option AddressingStyle :=
  match Text.lower (Text.stripped s) with
  | "path" => some .path
  | "virtual" => some .virtual
  | "auto" => some .auto
  | _ => none

end AddressingStyle

structure Settings where
  endpoint : Option String := none
  region : Option String := some "us-east-1"
  accessKey : Option String := none
  secretKey : Option String := none
  useTls : Bool := true
  style : AddressingStyle := .path
  bucket : Option String := none
  storageClass : Option String := none
  encrypts : Bool := false
  encryptionKey : Option String := none
  mirrorDirectory : Option String := none
  detectsContentType : Bool := true
  logLevel : String := "INFO"
  logFormat : String := "json"
  metricsEnabled : Bool := true
  metricsSocket : Option Int := none
  deriving DecidableEq, Inhabited

/-- Settings as they are given, with the addressing style still a text. -/
structure SettingsDraft where
  settings : Settings := {}
  style : Option String := some "path"
  deriving Inhabited

/-- The settings, if the addressing style is one. -/
def SettingsDraft.checked (d : SettingsDraft) : Except Failure Settings :=
  match d.style.bind AddressingStyle.ofText? with
  | some style => .ok { d.settings with style }
  | none => .error .addressingStyle

end ObjectChannel
