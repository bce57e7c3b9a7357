/-
Settings as data, under the names of the variables that they are read from. Reading takes the default
for every name that is left out; a setting that is given has to be of the right kind.
-/
import ObjectChannel.Settings.Basic
import ObjectChannel.Table
import ObjectChannel.Value

namespace ObjectChannel

/-- The settings by name. -/
def Settings.fields (s : Settings) : List (String × Value) := [
  ("S3_ENDPOINT_URL", .ofText? s.endpoint),
  ("S3_REGION", .ofText? s.region),
  ("S3_ACCESS_KEY_ID", .ofText? s.accessKey),
  ("S3_SECRET_ACCESS_KEY", .ofText? s.secretKey),
  ("S3_USE_SSL", .bool s.useTls),
  ("S3_ADDRESSING_STYLE", .text s.style.name),
  ("S3_BUCKET", .ofText? s.bucket),
  ("S3_STORAGE_CLASS", .ofText? s.storageClass),
  ("S3_SSE_ENABLED", .bool s.encrypts),
  ("S3_SSE_KMS_KEY_ID", .ofText? s.encryptionKey),
  ("CHANNEL_TEMP_DIR", .ofText? s.mirrorDirectory),
  ("CHANNEL_DETECT_CONTENT_TYPE", .bool s.detectsContentType),
  ("LOG_LEVEL", .text s.logLevel),
  ("LOG_FORMAT", .text s.logFormat),
  ("ENABLE_METRICS", .bool s.metricsEnabled),
  ("METRICS_PORT", match s.metricsSocket with | some n => .int n | none => .null)]

/-- The names of the settings. -/
def Settings.names : List String := ({} : Settings).fields.map (·.1)

namespace SettingsDraft

/-- The draft with one setting given by name. A switch is on if what is given for it is present. -/
def set (d : SettingsDraft) (name : String) (v : Value) : Except Failure SettingsDraft :=
  let s := d.settings
  let text (put : Option String → SettingsDraft) : Except Failure SettingsDraft :=
    match v with
    | .null => .ok (put none)
    | .text t => .ok (put (some t))
    | _ => .error .settingKind
  let flag (put : Bool → Settings) : Except Failure SettingsDraft :=
    .ok { d with settings := put v.isPresent }
  match name with
  | "S3_ENDPOINT_URL" => text fun t => { d with settings := { s with endpoint := t } }
  | "S3_REGION" => text fun t => { d with settings := { s with region := t } }
  | "S3_ACCESS_KEY_ID" => text fun t => { d with settings := { s with accessKey := t } }
  | "S3_SECRET_ACCESS_KEY" => text fun t => { d with settings := { s with secretKey := t } }
  | "S3_USE_SSL" => flag fun b => { s with useTls := b }
  | "S3_ADDRESSING_STYLE" => text fun t => { d with style := t }
  | "S3_BUCKET" => text fun t => { d with settings := { s with bucket := t } }
  | "S3_STORAGE_CLASS" => text fun t => { d with settings := { s with storageClass := t } }
  | "S3_SSE_ENABLED" => flag fun b => { s with encrypts := b }
  | "S3_SSE_KMS_KEY_ID" => text fun t => { d with settings := { s with encryptionKey := t } }
  | "CHANNEL_TEMP_DIR" => text fun t => { d with settings := { s with mirrorDirectory := t } }
  | "CHANNEL_DETECT_CONTENT_TYPE" => flag fun b => { s with detectsContentType := b }
  | "LOG_LEVEL" => text fun t => { d with settings := { s with logLevel := t.getD "" } }
  | "LOG_FORMAT" => text fun t => { d with settings := { s with logFormat := t.getD "" } }
  | "ENABLE_METRICS" => flag fun b => { s with metricsEnabled := b }
  | "METRICS_PORT" =>
    match v with
    | .null => .ok { d with settings := { s with metricsSocket := none } }
    | .int n => .ok { d with settings := { s with metricsSocket := some n } }
    | _ => .error .settingKind
  | _ => .error .unknownSetting

end SettingsDraft

namespace Settings

/-- The settings that are given by name. -/
def ofFields (given : List (String × Value)) : Except Failure Settings := do
  SettingsDraft.checked (← given.foldlM (fun d (name, v) => d.set name v) {})

/-- All settings by name, those that are given as they are given. Only the addressing style is looked
at. -/
def listing (given : List (String × Value)) : Except Failure Value := do
  if given.any fun (name, _) => !names.contains name then .error .unknownSetting
  else
    let style ← match given.lookup "S3_ADDRESSING_STYLE" with
      | none => SettingsDraft.checked {}
      | some (.text t) => SettingsDraft.checked { style := some t }
      | some v => .error (if v.isPresent then .styleKind else .addressingStyle)
    let given := (Table.ofList given).insert "S3_ADDRESSING_STYLE" (.text style.style.name)
    return .object (({} : Settings).fields.map fun (name, v) => (name, (given.get? name).getD v))

end Settings
end ObjectChannel
