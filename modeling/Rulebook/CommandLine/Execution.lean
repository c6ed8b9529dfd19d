import Rulebook.CommandLine.Command
import Rulebook.CommandLine.Output
import Rulebook.Lint.Check
import Rulebook.Preview.Gate
import Rulebook.Sync.All

/-!
# Executing commands

Each command works on the engine once and turns the outcome into output. The status tells
what was printed: a blocked verdict, a closed gate and a sync with failures have a status
of their own, and a command that breaks off prints nothing.
-/

namespace Rulebook

/-- True of failures that a sync of one community reports instead of breaking off. -/
def Failure.isReported : Failure → Bool
  | .rejected _ => true
  | .store _ => true
  | .sourceUnavailable _ _ => true
  | _ => false

namespace CommandLine

/-- Output and the engine after the command. -/
abbrev Execution := Output × Engine

/-- Prints the report of a sync. -/
def reportOutput (report : SyncReport) : Output :=
  .document (if report.ok then .done else .failed) report.document

/-- Syncs one community. -/
def executeSyncOne (engine : Engine) (community : String) : Execution :=
  let report : SyncReport := { total := 1 }
  match engine.syncOne community with
  | (.ok _, engine) => (reportOutput (report.note community none), engine)
  | (.error failure, engine) =>
    (if failure.isReported then reportOutput (report.note community (some failure.message))
      else .failed, engine)

/-- Syncs all registered communities. -/
def executeSyncAll (engine : Engine) : Execution :=
  match engine.syncAll none with
  | (.ok report, engine) => (reportOutput report, engine)
  | (.error _, engine) => (.failed, engine)

/-- Prints a verdict. -/
def verdictOutput (result : LintResult) : Output :=
  .document (if result.state == .blocked then .blocked else .done) result.document

/-- Checks a post. -/
def executeLint (engine : Engine) (request : Lint.Request) (userId : Option Int) : Execution :=
  match request.named with
  | .error _ => (.failed, engine)
  | .ok request =>
    match engine.lintRequest request (Json.ofOption .int userId) with
    | (.ok result, engine) => (verdictOutput result, engine)
    | (.error _, engine) => (.failed, engine)

/-- The counts of a user and the decision they amount to. -/
def gateDocument (stats : PreviewStats) : Json :=
  .obj [("stats", stats.document), ("decision", stats.decide.sparseDocument),
    ("remaining", .int stats.decide.remaining)]

/-- Prints counts and decision. -/
def gateOutput (stats : PreviewStats) : Output :=
  .document (if stats.canQueue then .done else .denied) (gateDocument stats)

/-- Shows whether a user may queue posts. -/
def executeGate (engine : Engine) (userId : Int) : Output :=
  match engine.previewStats userId with
  | .ok stats => gateOutput stats
  | .error _ => .failed

/-- Registers a community. -/
def executeAdd (engine : Engine) (name : String) (displayName : Option String) : Execution :=
  match engine.onDatabase (engine.db.addCommunity name displayName) with
  | (.ok true, engine) => (.line .done ("Added community " ++ name), engine)
  | (.ok false, engine) =>
    (.line .done ("Community " ++ name ++ " is already registered"), engine)
  | (.error _, engine) => (.failed, engine)

/-- Prints the overview left with a community. -/
def executeShow (engine : Engine) (name : String) : Output :=
  match engine.db.getCommunity name with
  | .ok overview => if overview.isNull then .failed else .document .done overview
  | .error _ => .failed

/-- Creates the tables. -/
def executeInit (engine : Engine) : Execution :=
  match engine.db.createSchema with
  | .ok db => (.line .done "Database schema is ready", { engine with db })
  | .error _ => (.failed, engine)

/-- Executes a command. -/
def Command.execute (engine : Engine) : Command → Execution
  | .sync none => executeSyncAll engine
  | .sync (some community) => executeSyncOne engine community
  | .lint community title body hasLink userId =>
    executeLint engine ⟨community, title, body, hasLink⟩ userId
  | .gate userId => (executeGate engine userId, engine)
  | .addCommunity name displayName => executeAdd engine name displayName
  | .showCommunity name => (executeShow engine name, engine)
  | .initDb => executeInit engine

/-- True of the command that fetches. -/
def Command.fetches : Command → Bool
  | .sync _ => true
  | _ => false

end CommandLine

end Rulebook
