import Rulebook.CommandLine.Execution
import Rulebook.Settings.Check
import Rulebook.Settings.LogLevel
import Rulebook.Settings.Printer
import Rulebook.Settings.Reader
import Rulebook.Store.Address

/-!
# Running a command line

A host holds what commands find around them: the environment, settings documents and
database files by path, the replies to come, the time, and the platform that patterns are
read on. A command reads its settings, checks them, and opens the database; only then it
is executed. What it leaves in a file is there for the next command; a database in memory
is gone.
-/

namespace Rulebook.CommandLine

open Calendar (Moment)

/-- What commands find around them. -/
structure Host where
  environment : Environment := {}
  documents : List (String × Json) := []
  databases : List (String × Database) := []
  feed : Feed := []
  now : Moment
  platform : Pattern.Platform := .common

/-- What a command works with once its settings are in order. -/
structure Setup where
  settings : Settings
  address : Address

/-- Puts a value under a key. -/
def putUnder {α : Type} (key : String) (value : α) (entries : List (String × α)) :
    List (String × α) :=
  (key, value) :: entries.filter (·.1 != key)

namespace Host

/-- Reads the settings of an invocation; none when they are not in order or the database is
switched off or out of reach. -/
def setup? (host : Host) (invocation : Invocation) : Option Setup := do
  let document := (host.documents.lookup invocation.configPath).getD .null
  let settings ← (Settings.read host.environment document).toOption
  let problems ← settings.problems.toOption
  let address ← settings.database.address.toOption
  let address ← Address.ofSetting? address
  if problems.isEmpty && isLogLevel (logLevelInForce invocation.logLevel settings.logLevel)
      && settings.database.enabled.truthy
  then some ⟨settings, address⟩
  else none

/-- A file that does not lie in a folder of its own can always be made. -/
def isLocal (path : String) : Bool := !path.toList.contains '/'

/-- Opens a database. -/
def open? (host : Host) : Address → Option Database
  | .memory => some .bare
  | .file path =>
    match host.databases.lookup path with
    | some db => some db
    | none => if isLocal path then some .bare else none

/-- Leaves a database where it lives. -/
def close (host : Host) (db : Database) : Address → Host
  | .memory => host
  | .file path => { host with databases := putUnder path db host.databases }

/-- The engine for a command. Only a command that fetches needs a pace. -/
def engine? (host : Host) (setup : Setup) (db : Database) (command : Command) :
    Option Engine := do
  let pace ← if command.fetches then (Limiter.paceOf setup.settings.rate).toOption
    else some Limiter.idlePace
  let metrics : Metrics := { enabled := setup.settings.monitoring.enabled.truthy }
  return {
    db := db
    traffic := { rate := setup.settings.rate, pace, feed := host.feed, metrics }
    now := host.now
    sync := setup.settings.sync
    gate := setup.settings.gate
    platform := host.platform }

/-- Runs an invocation. -/
def invoke (host : Host) (invocation : Invocation) : Output × Host :=
  let prepared := do
    let setup ← host.setup? invocation
    let db ← host.open? setup.address
    let engine ← host.engine? setup db invocation.command
    return (setup.address, engine)
  match prepared with
  | none => (.failed, host)
  | some (address, engine) =>
    let (output, engine) := invocation.command.execute engine
    (output, { host with feed := engine.traffic.feed }.close engine.db address)

/-- What a wish for help prints. -/
def helpText : String :=
  "Usage: compliance-engine COMMAND [OPTIONS] [ARGUMENTS]\n\nCommands: "
    ++ ", ".intercalate (commandForms.map (·.name))

/-- Runs a command line. -/
def run (host : Host) (words : List String) : Output × Host :=
  match Demand.read words with
  | .help => (.line .done helpText, host)
  | .misuse => ({ status := .misused }, host)
  | .run invocation => host.invoke invocation

end Host

end Rulebook.CommandLine
