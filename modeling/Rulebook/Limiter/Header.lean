import Rulebook.Json.Number
import Rulebook.Limiter.Basic
import Rulebook.Settings.Basic
import Rulebook.Text.Case

/-!
# Reading rate headers

Header names are compared ignoring case, and of several spellings the last one counts. A
value is read as a number, also from text. The number of calls left is cut to an integer,
for which infinity is too large; a time may be infinite.
-/

namespace Rulebook.Limiter

/-- The last value under a header name, whatever its case. -/
def headerValue? (headers : List (String × Json)) (name : String) : Option Json :=
  (headers.reverse.find? fun header => Text.lowered header.1 == name).map (·.2)

/-- Reads a value as a number of seconds. -/
def readSeconds : Json → HeaderReading Float
  | .str text =>
    match Decimal.readFloat? text with
    | some seconds => .value seconds
    | none => .unreadable
  | value =>
    match value.number? with
    | none => .unreadable
    | some number =>
      match number.toFloat with
      | .ok seconds => .value seconds
      | .error _ => .tooLarge

/-- Reads a value as a number of calls. -/
def readCount (value : Json) : HeaderReading Int :=
  match readSeconds value with
  | .value x =>
    match Decimal.readFloat x with
    | .finite _ _ => .value ((Decimal.truncate? x).getD 0)
    | .infinite _ => .tooLarge
    | .notANumber => .unreadable
  | .absent => .absent
  | .unreadable => .unreadable
  | .tooLarge => .tooLarge

/-- What a header says, if it is there. -/
def readHeader {α : Type} (read : Json → HeaderReading α) (headers : List (String × Json))
    (name : String) : HeaderReading α :=
  match headerValue? headers name with
  | some value => read value
  | none => .absent

/-- Takes over the rate headers of a response. -/
def updateFrom (limiter : Limiter Float) (now : Float) (headers : List (String × Json)) :
    Limiter Float × Bool :=
  limiter.update now (readHeader readCount headers "x-ratelimit-remaining")
    (readHeader readSeconds headers "x-ratelimit-reset")

/-- The seconds that a refusal asks to wait; sixty unless it says something readable. -/
def holdSeconds (retryAfter : Json) : Except Fault Float :=
  if !retryAfter.truthy then .ok 60.0
  else
    match readSeconds retryAfter with
    | .value seconds => .ok seconds
    | .tooLarge => .error .outOfRange
    | _ => .ok 60.0

/-- The pace to keep when nothing is fetched. -/
def idlePace : Pace Float := ⟨0.0, 0, 0.0⟩

end Rulebook.Limiter
