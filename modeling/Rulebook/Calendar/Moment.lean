import Rulebook.Calendar.Date

/-!
# Moments

A moment is a date and a time of day as read off a clock on the wall, with the distance of
that clock from universal time if it is known. Two moments of different offsets are
compared by their instants; a moment without an offset counts as universal time.

Shifts move the wall clock and keep the offset. They fail only where the result would
leave the years 1 to 9999.
-/

namespace Rulebook.Calendar

/-- Microseconds of one day. -/
def dayMicros : Nat := 86400000000

/-- A reading of a wall clock. The offset is in seconds east of universal time. -/
structure Moment where
  date : Date
  micros : Nat
  offset : Option Int
  withinDay : micros < dayMicros
deriving DecidableEq

/-- Microseconds of the wall clock since the start of the year 1. -/
def Moment.wall (m : Moment) : Nat := m.date.dayNumber * dayMicros + m.micros

/-- The instant on the time line, in microseconds of universal time since the start of
the year 1. It is negative for the first hours of the year 1 east of universal time. -/
def Moment.instant (m : Moment) : Int := (m.wall : Int) - m.offset.getD 0 * 1000000

/-- The moment at which a wall clock with the offset shows the given microseconds. -/
def Moment.ofWall? (wall : Int) (offset : Option Int) : Option Moment :=
  if wall < 0 then none
  else
    (Date.ofDayNumber? (wall.toNat / dayMicros)).map fun date =>
      ⟨date, wall.toNat % dayMicros, offset, Nat.mod_lt _ (by decide)⟩

/-- The same instant on a clock of universal time. -/
def Moment.inUtc? (m : Moment) : Option Moment := Moment.ofWall? m.instant (some 0)

/-- Moves the wall clock by a number of microseconds. -/
def Moment.shift? (m : Moment) (micros : Int) : Option Moment :=
  Moment.ofWall? ((m.wall : Int) + micros) m.offset

/-- A time of day in hours, minutes, seconds and microseconds. -/
def clockMicros (hour minute second micros : Nat) : Nat :=
  ((hour * 60 + minute) * 60 + second) * 1000000 + micros

end Rulebook.Calendar
