import Rulebook.Pattern.Platform
import Rulebook.Settings.Basic
import Rulebook.Source.Traffic
import Rulebook.Store.Communities
import Rulebook.Store.Events
import Rulebook.Store.Rules

/-!
# The engine

The engine is the database, the traffic with the source of rules, a clock, the settings
and the platform that patterns are read on. Its operations take the engine to a result and the engine after it; what an
operation has changed before it fails stays changed.
-/

namespace Rulebook

open Calendar (Moment)

/-- The whole state. The linter may be without a log of events, and the sync without a list
of communities. -/
structure Engine where
  db : Database := {}
  traffic : Traffic
  now : Moment
  sync : SyncSettings := {}
  gate : GateSettings := {}
  keepsEvents : Bool := true
  knowsCommunities : Bool := true
  platform : Pattern.Platform := .common

namespace Engine

/-- The outcome of an operation and the engine after it. -/
abbrev Outcome (α : Type) := Except Failure α × Engine

/-- Counts an occurrence. -/
def record (engine : Engine) (occurrence : Occurrence) : Engine :=
  { engine with traffic := engine.traffic.record occurrence }

/-- An operation on the database alone that changes it. -/
def onDatabase {α : Type} (engine : Engine) (result : Database.Result (Database × α)) :
    Outcome α :=
  match result with
  | .ok (db, value) => (.ok value, { engine with db })
  | .error failure => (.error failure, engine)

end Engine

end Rulebook
