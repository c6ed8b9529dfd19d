import Rulebook.Lint.Verdict

/-!
# Counters

The engine counts syncs by outcome, verdicts, gate decisions, failed fetches by source and
cause, and timed fetches. A log of what happened holds them all; a counter is the number
of its occurrences, so recording is appending.
-/

namespace Rulebook

/-- The two documents fetched per community. -/
inductive SourcePage where
  | aboutRules
  | wiki
deriving Repr, DecidableEq

/-- The name of a page in counters. -/
def SourcePage.name : SourcePage → String
  | .aboutRules => "about_rules"
  | .wiki => "wiki"

/-- Something that is counted. -/
inductive Occurrence where
  | synced (succeeded : Bool)
  | verdict (state : PolicyState)
  | gate (allowed : Bool)
  | fetchFailed (page : SourcePage) (cause : String)
  | fetched
deriving Repr, DecidableEq

/-- The name of the counter. -/
def Occurrence.name : Occurrence → String
  | .synced succeeded => "syncs." ++ (if succeeded then "success" else "failure")
  | .verdict state => "verdicts." ++ state.name
  | .gate allowed => "gate." ++ (if allowed then "allow" else "deny")
  | .fetchFailed page cause => "upstream." ++ page.name ++ "." ++ cause
  | .fetched => "fetches"

/-- What has been counted so far, or nothing at all when nobody asks for it. -/
structure Metrics where
  enabled : Bool := true
  log : List Occurrence := []
deriving Repr, DecidableEq

/-- Counts an occurrence. -/
def Metrics.record (metrics : Metrics) (occurrence : Occurrence) : Metrics :=
  if metrics.enabled then { metrics with log := metrics.log ++ [occurrence] } else metrics

/-- The value of a counter. -/
def Metrics.count (metrics : Metrics) (occurrence : Occurrence) : Nat :=
  metrics.log.count occurrence

/-- The counters that are not zero. -/
def Metrics.document (metrics : Metrics) : Json :=
  .obj (metrics.log.eraseDups.map fun occurrence =>
    (occurrence.name, .int (metrics.count occurrence)))

end Rulebook
