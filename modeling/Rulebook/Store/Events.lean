import Rulebook.Store.Basic

/-!
# The log of preview events

Events are appended and counted, never changed. Their times are kept as universal time,
an unknown offset counting as that, in a text of fixed width. Counting from a moment on
compares these texts. Identifiers of users are limited to 64 bits.
-/

namespace Rulebook.Database

open Calendar (Moment)

/-- The moment in universal time. -/
def universal (m : Moment) : Result Moment :=
  match m.inUtc? with
  | some moment => .ok moment
  | none => .error (.fault .outOfRange)

/-- Identifiers that fit into a column. -/
def fitsColumn (id : Int) : Bool := -(Decimal.wordLimit : Int) ≤ id && id < Decimal.wordLimit

/-- Fails for identifiers that do not fit. -/
def checkColumn (id : Int) : Result Unit :=
  if fitsColumn id then .ok () else .error (.fault .outOfRange)

/-- Appends an event. The result is the event with the number it was given. -/
def insertEvent (db : Database) (event : PreviewEvent) : Result (Database × PreviewEvent) := do
  let createdAt ← universal event.createdAt
  db.session
  let rows ← orFail .eventWrite db.events.read?
  checkColumn event.userId
  let id : Option Int := some (rows.length + 1)
  let events ← orFail .eventWrite (db.events.write? (rows ++ [{ event with id, createdAt }]))
  return ({ db with events }, { event with id })

/-- True for the events that a count covers. -/
def counts (userId : Int) (since : Moment) (state : Option PolicyState) (event : PreviewEvent) :
    Bool :=
  event.userId == userId && !decide (event.createdAt.stamp < since.stamp)
    && (state.isNone || state == some event.policyState)

/-- The number of a user's events from a moment on, of one verdict or of all. -/
def countEvents (db : Database) (userId : Int) (since : Moment) (state : Option PolicyState) :
    Result Nat := do
  let since ← universal since
  db.session
  let rows ← orFail .eventRead db.events.read?
  checkColumn userId
  return rows.countP (counts userId since state)

end Rulebook.Database
