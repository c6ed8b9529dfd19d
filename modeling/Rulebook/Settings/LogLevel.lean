import Rulebook.Json.Basic

/-!
# Log levels

A log level is one of a few names or any integer. No level at all is fine too and leaves
the level as it is.
-/

namespace Rulebook

/-- The names of log levels. -/
def logLevelNames : List String :=
  ["CRITICAL", "FATAL", "ERROR", "WARN", "WARNING", "INFO", "DEBUG", "NOTSET"]

/-- True of the values that can be set as log level. -/
def isLogLevel : Json → Bool
  | .str name => logLevelNames.contains name
  | .int _ => true
  | .bool _ => true
  | .null => true
  | _ => false

/-- The log level in force: a chosen one unless it is empty, else that of the settings. -/
def logLevelInForce (chosen : Option String) (setting : Json) : Json :=
  match chosen with
  | some name => if name == "" then setting else .str name
  | none => setting

end Rulebook
