/-
Settings out of the environment. They are built once and then kept, until they are asked for anew.
-/
import ObjectChannel.Settings.Basic
import ObjectChannel.Settings.Environment
import ObjectChannel.Text.Integer

namespace ObjectChannel

namespace Settings

/-- Words that mean yes; all others mean no. -/
def yesWords : List String := ["1", "true", "t", "yes", "y", "on"]

/-- A switch, with the value that it has where nothing is said. -/
def switch (value : Option String) (default : Bool) : Bool :=
  match value with
  | some s => yesWords.contains (Text.lower s)
  | none => default

/-- A text, where an empty one is none. -/
def unlessEmpty (value : Option String) : Option String := value.filter (· != "")

/-- A number, which blank text leaves out. -/
def optionalNumber (value : Option String) : Except Failure (Option Int) :=
  match value with
  | none => .ok none
  | some s =>
    if (Text.strip s.toList).isEmpty then .ok none
    else
      match Text.integer? s with
      | some n => .ok (some n)
      | none => .error .metricsSocket

/-- The settings that an environment describes. -/
def ofEnvironment (env : Environment) : Except Failure Settings := do
  let d : Settings := {}
  let socket ← optionalNumber (env.get? "METRICS_PORT")
  SettingsDraft.checked {
    style := some ((env.get? "S3_ADDRESSING_STYLE").getD d.style.name)
    settings := {
      endpoint := unlessEmpty (env.get? "S3_ENDPOINT_URL")
      region := (env.get? "S3_REGION").or d.region
      accessKey := env.get? "S3_ACCESS_KEY_ID"
      secretKey := env.get? "S3_SECRET_ACCESS_KEY"
      useTls := switch (env.get? "S3_USE_SSL") d.useTls
      bucket := unlessEmpty (env.get? "S3_BUCKET")
      storageClass := unlessEmpty (env.get? "S3_STORAGE_CLASS")
      encrypts := switch (env.get? "S3_SSE_ENABLED") d.encrypts
      encryptionKey := unlessEmpty (env.get? "S3_SSE_KMS_KEY_ID")
      mirrorDirectory := unlessEmpty (env.get? "CHANNEL_TEMP_DIR")
      detectsContentType := switch (env.get? "CHANNEL_DETECT_CONTENT_TYPE") d.detectsContentType
      logLevel := Text.upper ((env.get? "LOG_LEVEL").getD d.logLevel)
      logFormat := Text.lower ((env.get? "LOG_FORMAT").getD d.logFormat)
      metricsEnabled := switch (env.get? "ENABLE_METRICS") d.metricsEnabled
      metricsSocket := socket } }

end Settings

/-- Settings as they were built, with their number among all that were. -/
structure Loaded where
  settings : Settings
  number : Nat
  deriving Inhabited

/-- What settings are built from, and those that are kept. -/
structure SettingsSource where
  environment : Environment := Table.empty
  file : Option Bytes := none
  built : Nat := 0
  kept : Option Loaded := none
  deriving Inhabited

namespace SettingsSource

/-- Builds settings from the file and the environment. What the file adds to the environment stays,
also when the settings are no good. -/
def build (s : SettingsSource) : Except Failure Loaded × SettingsSource :=
  match Environment.addFile s.environment s.file with
  | (.error e, env) => (.error (.environment e), { s with environment := env })
  | (.ok _, env) =>
    let s := { s with environment := env }
    match Settings.ofEnvironment env with
    | .error e => (.error e, s)
    | .ok settings => (.ok ⟨settings, s.built⟩, { s with built := s.built + 1 })

/-- The kept settings, which are built first if there are none. -/
def get (s : SettingsSource) : Except Failure Loaded × SettingsSource :=
  match s.kept with
  | some l => (.ok l, s)
  | none =>
    match s.build with
    | (.ok l, s) => (.ok l, { s with kept := some l })
    | (.error e, s) => (.error e, s)

/-- Forgets the kept settings. -/
def forget (s : SettingsSource) : SettingsSource := { s with kept := none }

end SettingsSource
end ObjectChannel
