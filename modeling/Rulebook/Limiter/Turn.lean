import Rulebook.Limiter.Header

/-!
# Taking a turn

The numbers that say when to wait for the count of calls come from settings. They are
looked at only when that wait is considered; one that is no number, or too large a one,
breaks the turn off after the wait for the least distance.
-/

namespace Rulebook.Limiter

/-- The smallest number of calls left that is not below a threshold. Numbers of calls are cut
from floating-point numbers, so all of them are below an infinite threshold, and none is below
a negative infinite one or a non-number. -/
def enoughOf (threshold : Number) : Int :=
  match threshold.ceiling? with
  | some calls => calls
  | none =>
    if (Number.int 0).less threshold then (Decimal.twoTo 1024 : Int)
    else -(Decimal.twoTo 1024 : Int)

/-- The pace that settings ask for. -/
def paceOf (settings : RateSettings) : Except Fault (Pace Float) := do
  let perMinute ← (← settings.maxRequestsPerMinute.number).toFloat
  if perMinute == 0.0 then throw .divisionByZero
  let enough := settings.minRemainingCalls.number?.map enoughOf
  let buffer := settings.sleepBuffer.number?.bind fun number => number.toFloat.toOption
  return .ofRate perMinute (enough.getD 0) (buffer.getD 0.0)

/-- The fault of adding the time to wait longer than necessary. -/
def bufferFault? (settings : RateSettings) : Option Fault :=
  match settings.sleepBuffer.number with
  | .error fault => some fault
  | .ok number =>
    match number.toFloat with
    | .error fault => some fault
    | .ok _ => none

/-- The fault that considering a wait for the count of calls runs into. -/
def turnFault? (settings : RateSettings) (limiter : Limiter Float) : Option Fault :=
  match limiter.remaining, limiter.reset with
  | some remaining, some _ =>
    match settings.minRemainingCalls.number with
    | .error fault => some fault
    | .ok enough => if (Number.int remaining).less enough then bufferFault? settings else none
  | _, _ => none

/-- Waits for the turn of a request. -/
def takeTurn (limiter : Limiter Float) (settings : RateSettings) (pace : Pace Float)
    (now : Float) : Except Fault Unit × Waited Float :=
  match turnFault? settings limiter with
  | none => (.ok (), limiter.beforeRequest pace now)
  | some fault =>
    let (pauses, reached) := limiter.waitInterval pace now
    (.error fault, ⟨pauses, reached, limiter⟩)

end Rulebook.Limiter
