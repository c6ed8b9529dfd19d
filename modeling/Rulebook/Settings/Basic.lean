import Rulebook.Json.Basic

/-!
# Settings

Settings come in five sections. A section has defaults for all of its fields. A field
holds whatever value the configuration gives it; what a value must be is up to the place
that uses it.
-/

namespace Rulebook

/-- Spacing of requests. -/
structure RateSettings where
  maxRequestsPerMinute : Json := .int 60
  minRemainingCalls : Json := .int 5
  sleepBuffer : Json := .int 2

/-- Fetching of published rules. -/
structure SyncSettings where
  baseUrl : Json := .str "https://www.reddit.com"
  userAgent : Json := .str "compliance_engine/0.1 (Subreddit rules sync)"
  requestTimeout : Json := .float 10.0
  batchSize : Json := .int 5
  batchDelay : Json := .float 2.0

/-- Thresholds of the preview gate. -/
structure GateSettings where
  requiredOkPreviews : Json := .int 3
  windowDays : Json := .int 14

/-- Publication of counters. -/
structure MonitoringSettings where
  enabled : Json := .bool false
  portNumber : Json := .int 8000

/-- The database. -/
structure DatabaseSettings where
  host : Json := .str "localhost"
  portNumber : Json := .int 5432
  database : Json := .str "compliance"
  user : Json := .str "postgres"
  password : Json := .str ""
  enabled : Json := .bool true
  url : Json := .null
  poolSize : Json := .int 5
  maxOverflow : Json := .int 10

/-- All settings. -/
structure Settings where
  logLevel : Json := .str "INFO"
  logFile : Json := .str "logs/compliance_engine.log"
  sync : SyncSettings := {}
  rate : RateSettings := {}
  gate : GateSettings := {}
  monitoring : MonitoringSettings := {}
  database : DatabaseSettings := {}

end Rulebook
