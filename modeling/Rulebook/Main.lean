import Rulebook.CommandLine.Host
import Rulebook.Store.Document
import Rulebook.VariableFile
import Std.Time.DateTime.Timestamp

/-!
# The program

Reads the files that a command line names, runs it, and writes back the database file.
Settings and databases are documents in files; the replies of the source are read from the
file `replies.json` in the working directory, and the variables of a `.env` file there
count where the environment does not set them.
-/

namespace Rulebook.Program

open CommandLine

/-- The text of a file, if it can be read. -/
def textOfFile? (path : String) : IO (Option String) := do
  try
    return some (← IO.FS.readFile path)
  catch _ => return none

/-- The variables that settings are read from. -/
def settingVariables : List String :=
  ["PG_HOST", "PG_PORT", "PG_DB", "PG_USER", "PG_PASSWORD", "USE_POSTGRES", "DATABASE_URL",
    "REDDIT_USER_AGENT"]

/-- The variables of the process and of the file. -/
def readEnvironment : IO Environment := do
  let process ← settingVariables.filterMapM fun name => do
    return (← IO.getEnv name).map fun value => (name, value)
  let file := (← textOfFile? ".env").getD ""
  return { process, file := fileVariables file }

/-- The time as a moment of universal time. -/
def currentMoment : IO Calendar.Moment := do
  let since ← Std.Time.Timestamp.now
  let micros := since.toNanosecondsSinceUnixEpoch.toInt / 1000
  let start : Calendar.Moment := ⟨⟨1970, 1, 1, by decide⟩, 0, some 0, by decide⟩
  return (start.shift? micros).getD start

/-- The document in a file; null when there is none. -/
def documentOfFile (path : String) : IO Json := do
  return ((← textOfFile? path).bind Json.parse?).getD .null

/-- A host with the files that an invocation needs. -/
def hostFor (invocation : Invocation) : IO Host := do
  let host : Host := {
    environment := ← readEnvironment
    documents := [(invocation.configPath, ← documentOfFile invocation.configPath)]
    feed := Feed.ofJson (← documentOfFile "replies.json")
    now := ← currentMoment }
  match (host.setup? invocation).map Setup.address with
  | some (.file path) =>
    match ← textOfFile? path with
    | some text => return { host with databases := [(path, Database.ofText text)] }
    | none => return host
  | _ => return host

/-- Writes the databases back, but for damaged files. -/
def writeDatabases (host : Host) : IO Unit :=
  host.databases.forM fun (path, db) =>
    if db.home == .damaged then pure () else IO.FS.writeFile path db.document.compact

/-- Runs a command line on a host with the files it needs. -/
def runWords (words : List String) : IO (Output × Host) := do
  match Demand.read words with
  | .run invocation => return (← hostFor invocation).run words
  | _ => return Host.run { now := ← currentMoment } words

end Rulebook.Program

/-- Runs the program. -/
def main (words : List String) : IO UInt32 := do
  let (output, host) ← Rulebook.Program.runWords words
  IO.print output.text
  Rulebook.Program.writeDatabases host
  return output.status.code.toUInt32
