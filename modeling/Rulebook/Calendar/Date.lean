/-!
# Calendar dates

Dates of the Gregorian calendar, carried back to the year 1 and limited to four-digit
years. A date is valid by construction. Its day number counts from the first day of the
year 1, so the distance of two dates is a difference of day numbers.
-/

namespace Rulebook.Calendar

/-- Every fourth year, but of the full centuries only every fourth. -/
def isLeap (year : Nat) : Bool := (year % 4 == 0 && year % 100 != 0) || year % 400 == 0

/-- The lengths of the months of a year. -/
def monthLengths (year : Nat) : List Nat :=
  [31, if isLeap year then 29 else 28, 31, 30, 31, 30, 31, 31, 30, 31, 30, 31]

/-- The number of days of a month; zero for months that do not exist. -/
def monthLength (year month : Nat) : Nat :=
  if month == 0 then 0 else (monthLengths year).getD (month - 1) 0

/-- True of the dates that exist in the years 1 to 9999. -/
def isDate (year month day : Nat) : Bool :=
  1 ≤ year && year ≤ 9999 && 1 ≤ day && day ≤ monthLength year month

/-- A day of the calendar. -/
structure Date where
  year : Nat
  month : Nat
  day : Nat
  valid : isDate year month day = true
deriving DecidableEq

/-- The date, if it exists. -/
def Date.of? (year month day : Nat) : Option Date :=
  if proof : isDate year month day = true then some ⟨year, month, day, proof⟩ else none

/-- Days before the first day of a year, counted from the year 1. -/
def daysBefore (year : Nat) : Nat :=
  let past := year - 1
  365 * past + past / 4 - past / 100 + past / 400

/-- Days from the first day of the year 1. -/
def Date.dayNumber (date : Date) : Nat :=
  ((monthLengths date.year).take (date.month - 1)).foldl (· + ·) (daysBefore date.year)
    + (date.day - 1)

/-- The year that holds a day. The mean length of a year puts the guess at most one year
off. -/
def yearOf (number : Nat) : Nat :=
  let guess := number * 400 / 146097 + 1
  if number < daysBefore guess then guess - 1
  else if daysBefore (guess + 1) ≤ number then guess + 1
  else guess

/-- The month and day for a day's index within its year. -/
def monthAndDay (index : Nat) (month : Nat) : List Nat → Nat × Nat
  | [] => (month, index + 1)
  | length :: rest =>
    if index < length then (month, index + 1) else monthAndDay (index - length) (month + 1) rest

/-- The date with a day number, up to the end of the year 9999. -/
def Date.ofDayNumber? (number : Nat) : Option Date :=
  let year := yearOf number
  let (month, day) := monthAndDay (number - daysBefore year) 1 (monthLengths year)
  Date.of? year month day

/-- An existing date is found under its own parts. -/
theorem Date.of?_parts (date : Date) : Date.of? date.year date.month date.day = some date := by
  simp [Date.of?, date.valid]

end Rulebook.Calendar
