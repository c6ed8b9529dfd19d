import Rulebook.Json.Number
import Rulebook.Settings.Basic

/-!
# Checking settings

The check goes through the settings in a fixed order and lists what is wrong with them in
words. A field that must be a number and is none breaks the check off.
-/

namespace Rulebook

/-- Reports a number that is not above zero. -/
def checkPositive (message : String) (value : Json) : Except Fault (List String) := do
  return if (← value.number).atMost (.int 0) then [message] else []

/-- Reports a number below zero. -/
def checkNotNegative (message : String) (value : Json) : Except Fault (List String) := do
  return if (← value.number).less (.int 0) then [message] else []

/-- Reports a value that counts as false. -/
def checkGiven (message : String) (value : Json) : Except Fault (List String) :=
  .ok (if value.truthy then [] else [message])

/-- What is wrong with the database settings: without an address of its own, a database in
use needs all parts of one. -/
def DatabaseSettings.problems (settings : DatabaseSettings) : Except Fault (List String) := do
  if settings.enabled.truthy && !settings.url.truthy then
    let host ← checkGiven "PG_HOST must be specified when PostgreSQL is enabled" settings.host
    let portNumber ← checkPositive "PG_PORT must be a positive integer" settings.portNumber
    let database ←
      checkGiven "PG_DB must be specified when PostgreSQL is enabled" settings.database
    let user ← checkGiven "PG_USER must be specified when PostgreSQL is enabled" settings.user
    return host ++ portNumber ++ database ++ user
  else return []

/-- What is wrong with the settings of the sync. -/
def SyncSettings.problems (settings : SyncSettings) : Except Fault (List String) := do
  let size ← checkPositive "sync.batch_size must be greater than 0" settings.batchSize
  let delay ← checkNotNegative "sync.batch_delay_sec must not be negative" settings.batchDelay
  let timeout ←
    checkPositive "sync.request_timeout_sec must be greater than 0" settings.requestTimeout
  let agent ← checkGiven "sync.user_agent must be set (Reddit rejects anonymous agents)"
    settings.userAgent
  return size ++ delay ++ timeout ++ agent

/-- What is wrong with the spacing of requests. -/
def RateSettings.problems (settings : RateSettings) : Except Fault (List String) :=
  checkPositive "rate_limit.max_requests_per_minute must be greater than 0"
    settings.maxRequestsPerMinute

/-- What is wrong with the thresholds of the gate. -/
def GateSettings.problems (settings : GateSettings) : Except Fault (List String) := do
  let required ← checkPositive "gate.required_ok_previews must be greater than 0"
    settings.requiredOkPreviews
  let window ← checkPositive "gate.window_days must be greater than 0" settings.windowDays
  return required ++ window

/-- What is wrong with the settings. -/
def Settings.problems (settings : Settings) : Except Fault (List String) := do
  let sync ← settings.sync.problems
  let rate ← settings.rate.problems
  let gate ← settings.gate.problems
  let database ← settings.database.problems
  return sync ++ rate ++ gate ++ database

end Rulebook
