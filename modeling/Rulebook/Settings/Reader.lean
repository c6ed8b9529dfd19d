import Rulebook.Decimal.Reader
import Rulebook.Fault
import Rulebook.Settings.Basic
import Rulebook.Settings.Environment
import Rulebook.Text.Case
import Rulebook.Text.Search

/-!
# Reading settings

Three layers give a field its value: the settings document where one of its sections holds
the field, else the environment where a variable stands for the field and is set, else the
default. A section that is no mapping counts as empty, and keys that a section does not
know have no effect.
-/

namespace Rulebook

/-- The value under a key of a section, or the value of the layer below. -/
def settingOr (key : String) (below : Json) (fields : List (String × Json)) : Json :=
  (Json.lookup? key fields).getD below

/-- The fields of a section of a document. -/
def sectionFields (name : String) (document : List (String × Json)) :
    List (String × Json) :=
  match Json.lookup? name document with
  | some (.obj fields) => fields
  | _ => []

/-- The settings with the fields that a section holds. -/
def RateSettings.override (settings : RateSettings) (fields : List (String × Json)) :
    RateSettings where
  maxRequestsPerMinute := settingOr "max_requests_per_minute" settings.maxRequestsPerMinute fields
  minRemainingCalls := settingOr "min_remaining_calls" settings.minRemainingCalls fields
  sleepBuffer := settingOr "sleep_buffer_sec" settings.sleepBuffer fields

/-- The settings with the fields that a section holds. -/
def SyncSettings.override (settings : SyncSettings) (fields : List (String × Json)) :
    SyncSettings where
  baseUrl := settingOr "base_url" settings.baseUrl fields
  userAgent := settingOr "user_agent" settings.userAgent fields
  requestTimeout := settingOr "request_timeout_sec" settings.requestTimeout fields
  batchSize := settingOr "batch_size" settings.batchSize fields
  batchDelay := settingOr "batch_delay_sec" settings.batchDelay fields

/-- The settings with the fields that a section holds. -/
def GateSettings.override (settings : GateSettings) (fields : List (String × Json)) :
    GateSettings where
  requiredOkPreviews := settingOr "required_ok_previews" settings.requiredOkPreviews fields
  windowDays := settingOr "window_days" settings.windowDays fields

/-- The settings with the fields that a section holds. -/
def MonitoringSettings.override (settings : MonitoringSettings) (fields : List (String × Json)) :
    MonitoringSettings where
  enabled := settingOr "enable_prometheus" settings.enabled fields
  portNumber := settingOr "prometheus_port" settings.portNumber fields

/-- The settings with the fields that a section holds. The name of the database has two
keys, and the short one counts only without the other. -/
def DatabaseSettings.override (settings : DatabaseSettings) (fields : List (String × Json)) :
    DatabaseSettings where
  host := settingOr "host" settings.host fields
  portNumber := settingOr "port" settings.portNumber fields
  database := settingOr "database" (settingOr "dbname" settings.database fields) fields
  user := settingOr "user" settings.user fields
  password := settingOr "password" settings.password fields
  enabled := settingOr "enabled" settings.enabled fields
  url := settingOr "url" settings.url fields
  poolSize := settingOr "pool_size" settings.poolSize fields
  maxOverflow := settingOr "max_overflow" settings.maxOverflow fields

namespace Environment

/-- A variable as a value, or a default when it is not set. -/
def textOr (environment : Environment) (name : String) (default : Json) : Json :=
  ((environment.get? name).map .str).getD default

/-- A variable as a value, or a default when it is not set or empty. -/
def filledOr (environment : Environment) (name : String) (default : Json) : Json :=
  match environment.get? name with
  | some value => if value == "" then default else .str value
  | none => default

/-- A variable as an integer, or a default when it is not set. -/
def integerOr (environment : Environment) (name : String) (default : Json) : Except Fault Json :=
  match environment.get? name with
  | some value =>
    match Decimal.readInt? value with
    | some number => .ok (.int number)
    | none => .error .unconvertible
  | none => .ok default

/-- A variable as a switch, on when it is the word `true` in any case, or a default when it
is not set. -/
def switchOr (environment : Environment) (name : String) (default : Json) : Json :=
  match environment.get? name with
  | some value => .bool (Text.lowered value == "true")
  | none => default

end Environment

/-- The database settings that the environment gives. -/
def DatabaseSettings.ofEnvironment (environment : Environment) :
    Except Fault DatabaseSettings := do
  let default : DatabaseSettings := {}
  let portNumber ← environment.integerOr "PG_PORT" default.portNumber
  return { default with
    host := environment.textOr "PG_HOST" default.host
    portNumber := portNumber
    database := environment.textOr "PG_DB" default.database
    user := environment.textOr "PG_USER" default.user
    password := environment.textOr "PG_PASSWORD" default.password
    enabled := environment.switchOr "USE_POSTGRES" default.enabled
    url := environment.filledOr "DATABASE_URL" default.url }

/-- The settings that the environment gives. -/
def Settings.ofEnvironment (environment : Environment) : Except Fault Settings := do
  let database ← DatabaseSettings.ofEnvironment environment
  let sync : SyncSettings := {}
  return {
    sync := { sync with userAgent := environment.filledOr "REDDIT_USER_AGENT" sync.userAgent }
    database := database }

/-- The settings with the fields that a document holds. -/
def Settings.override (settings : Settings) (document : List (String × Json)) : Settings where
  logLevel := settingOr "log_level" settings.logLevel document
  logFile := settingOr "log_file" settings.logFile document
  sync := settings.sync.override (sectionFields "sync" document)
  rate := settings.rate.override (sectionFields "rate_limit" document)
  gate := settings.gate.override (sectionFields "gate" document)
  monitoring := settings.monitoring.override (sectionFields "monitoring" document)
  database := settings.database.override (sectionFields "postgres" document)

/-- The fault that a document causes which is no mapping: the keys of the logging are
looked for in a list or text first, and finding one there is of no use. -/
def documentFault (document : Json) : Fault :=
  let keys := ["log_level", "log_file"]
  match document with
  | .arr items =>
    if items.any fun item => (item.text?.map keys.contains).getD false then .wrongType
    else .noSuchOperation
  | .str text =>
    if keys.any fun key => Text.occurs key.toList text.toList then .wrongType
    else .noSuchOperation
  | _ => .wrongType

/-- Reads the settings. A document that counts as false is empty. -/
def Settings.read (environment : Environment) (document : Json) : Except Fault Settings := do
  let settings ← Settings.ofEnvironment environment
  match document with
  | .obj fields => return settings.override fields
  | other => if other.truthy then throw (documentFault other) else return settings

end Rulebook
