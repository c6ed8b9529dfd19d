/-!
# Spacing requests

Requests to the source of rules keep a least distance in time. The source may also tell
how many calls are left and when the count starts anew; when few are left, the next
request waits for that moment and a little longer. A refusal for too many requests holds
the next request for a while in the same way.

Times are of any type with an addition, a subtraction and an order. The program uses
floating-point seconds; laws about the spacing can be stated over exact numbers.
-/

namespace Rulebook

/-- What is known about the source: the calls left, when their count starts anew, and the
time of the last request. -/
structure Limiter (T : Type) where
  remaining : Option Int
  reset : Option T
  last : T

/-- The pace to keep: the least distance between requests, the number of calls left from
which on there is no waiting, and the time to wait longer than necessary. -/
structure Pace (T : Type) where
  interval : T
  enough : Int
  buffer : T

/-- The pace of so many requests a minute, which share its sixty seconds. -/
def Pace.ofRate {T : Type} [Div T] [OfNat T 60] (perMinute : T) (enough : Int) (buffer : T) :
    Pace T := ⟨60 / perMinute, enough, buffer⟩

/-- The outcome of waiting before a request: the pauses made, the time after them, and the
new state. -/
structure Waited (T : Type) where
  pauses : List T
  now : T
  limiter : Limiter T

/-- What a header says. -/
inductive HeaderReading (α : Type) where
  | absent
  | unreadable
  | tooLarge
  | value (value : α)

namespace Limiter

variable {T : Type} [Add T] [Sub T] [LT T] [DecidableLT T] [OfNat T 0]

/-- Nothing is known yet. -/
def fresh : Limiter T := ⟨none, none, 0⟩

/-- Waits until the least distance from the last request is reached. -/
def waitInterval (limiter : Limiter T) (pace : Pace T) (now : T) : List T × T :=
  let elapsed := now - limiter.last
  if elapsed < pace.interval then
    let pause := pace.interval - elapsed
    ([pause], now + pause)
  else ([], now)

/-- How long to wait for the count of calls to start anew, when few are left. -/
def resetPause? (limiter : Limiter T) (pace : Pace T) (now : T) : Option T :=
  match limiter.remaining, limiter.reset with
  | some remaining, some reset =>
    if remaining < pace.enough then
      let pause := reset - now + pace.buffer
      if 0 < pause then some pause else none
    else none
  | _, _ => none

/-- Waits as long as necessary before a request and reserves the time reached. -/
def beforeRequest (limiter : Limiter T) (pace : Pace T) (now : T) : Waited T :=
  let (pauses, reached) := limiter.waitInterval pace now
  match limiter.resetPause? pace reached with
  | some pause => ⟨pauses ++ [pause], reached + pause, ⟨none, none, reached + pause⟩⟩
  | none => ⟨pauses, reached, { limiter with last := reached }⟩

/-- Takes over what the headers of a response say. An unreadable value changes nothing. A
value that is too large breaks off; the flag is set then, and the time of the response is
all that has been recorded by that point, along with any earlier header. -/
def update (limiter : Limiter T) (now : T) (remaining : HeaderReading Int)
    (reset : HeaderReading T) : Limiter T × Bool :=
  let seen := { limiter with last := now }
  match remaining with
  | .tooLarge => (seen, true)
  | _ =>
    let counted :=
      match remaining with
      | .value count => { seen with remaining := some count }
      | _ => seen
    match reset with
    | .tooLarge => (counted, true)
    | .value seconds => ({ counted with reset := some (now + seconds) }, false)
    | _ => (counted, false)

/-- Holds the next request for a while. -/
def hold (limiter : Limiter T) (now seconds : T) : Limiter T :=
  { limiter with remaining := some 0, reset := some (now + seconds) }

end Limiter

end Rulebook
