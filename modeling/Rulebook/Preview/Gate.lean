import Rulebook.Engine
import Rulebook.Json.Number

/-!
# The preview gate

A user may queue posts after enough checks with a clean verdict inside a window of days
that ends now. The counts are read from the log each time. When they cannot be read they
count as zero, so trouble with the log closes the gate.
-/

namespace Rulebook

open Calendar Document

/-- The counts of a user inside the window. -/
structure PreviewStats where
  okCount : Int
  totalPreviews : Int
  canQueue : Bool
  required : Int
deriving Repr, DecidableEq

/-- The counts as a document. -/
def PreviewStats.document (stats : PreviewStats) : Json :=
  .obj [("okCount14d", .int stats.okCount), ("totalPreviews14d", .int stats.totalPreviews),
    ("canQueue", .bool stats.canQueue), ("required", .int stats.required)]

/-- Whether a user may queue posts, and if not, what is missing. -/
structure GateDecision where
  canQueue : Bool
  required : Option Int := none
  current : Option Int := none
  reason : Option String := none
deriving Repr, DecidableEq

namespace GateDecision

/-- The reason of a denial. -/
def notMet : String := "PREVIEW_GATE_NOT_MET"

/-- Reads a decision. -/
def read : Reader GateDecision
  | path, .obj fields =>
    GateDecision.mk
      <$> Document.required path fields ⟨"canQueue", "can_queue"⟩ readTruth
      <*> optional path fields (.single "required") readInteger
      <*> optional path fields (.single "current") readInteger
      <*> optional path fields (.single "reason")
        (readChoice fun name => if name == notMet then some name else none)
  | path, _ => problem path .mapping

/-- The decision as a document with all fields. -/
def document (decision : GateDecision) : Json :=
  .obj [("canQueue", .bool decision.canQueue), ("required", Json.ofOption .int decision.required),
    ("current", Json.ofOption .int decision.current),
    ("reason", Json.ofOption .str decision.reason)]

/-- The decision as a document without the open fields. -/
def sparseDocument (decision : GateDecision) : Json :=
  match decision.document with
  | .obj fields => .obj (fields.filter fun field => !field.2.isNull)
  | other => other

/-- How many more clean checks are needed. -/
def remaining (decision : GateDecision) : Int :=
  match decision.canQueue, decision.required with
  | false, some required => max (required - decision.current.getD 0) 0
  | _, _ => 0

end GateDecision

/-- The decision that counts amount to. -/
def PreviewStats.decide (stats : PreviewStats) : GateDecision :=
  if stats.canQueue then { canQueue := true }
  else
    { canQueue := false, required := some stats.required, current := some stats.okCount,
      reason := some GateDecision.notMet }

/-- The longest span of days that can be counted with. -/
def spanLimit : Int := 999999999

/-- A number of days in microseconds. Whole days are exact; the rest of a day is multiplied in
floating point and then rounded to the nearest microsecond. -/
def daysToMicros : Number → Except Fault Int
  | .int days => if spanLimit < days.natAbs then .error .outOfRange else .ok (days * dayMicros)
  | .float days =>
    match Decimal.readFloat days with
    | .finite negative b =>
      match Decimal.Binary.nearest? (b.num % b.den * dayMicros) b.den with
      | none => .error .outOfRange
      | some rest =>
        let micros : Int := b.num / b.den * dayMicros + Decimal.roundDiv rest.num rest.den
        if spanLimit < micros / dayMicros then .error .outOfRange
        else .ok (if negative then -micros else micros)
    | .infinite _ => .error .outOfRange
    | .notANumber => .error .unconvertible

namespace Engine

/-- The start of the window. -/
def windowStart (engine : Engine) : Except Fault Moment := do
  let micros ← daysToMicros (← engine.gate.windowDays.number)
  match engine.now.shift? (-micros) with
  | some since => return since
  | none => throw .outOfRange

/-- The clean and all events of a user from a moment on; zero when they cannot be read. -/
def safeCounts (engine : Engine) (userId : Int) (since : Moment) : Nat × Nat :=
  let counted := do
    let clean ← engine.db.countEvents userId since (some .ok)
    let all ← engine.db.countEvents userId since none
    return (clean, all)
  match counted with
  | .ok counts => counts
  | .error _ => (0, 0)

/-- The counts of a user. -/
def previewStats (engine : Engine) (userId : Int) : Except Failure PreviewStats := do
  let since ← Failure.ofFault engine.windowStart
  let (clean, all) := engine.safeCounts userId since
  let threshold ← Failure.ofFault engine.gate.requiredOkPreviews.number
  let required ← Failure.ofChecked (readInteger ["required"] engine.gate.requiredOkPreviews)
  return ⟨clean, all, threshold.atMost (.int clean), required⟩

/-- Whether a user may queue posts. -/
def canQueue (engine : Engine) (userId : Int) : Except Failure Bool :=
  (engine.previewStats userId).map (·.canQueue)

/-- The decision for a user, which is counted. -/
def checkGate (engine : Engine) (userId : Int) : Outcome GateDecision :=
  match engine.previewStats userId with
  | .error failure => (.error failure, engine)
  | .ok stats => (.ok stats.decide, engine.record (.gate stats.canQueue))

end Engine

end Rulebook
