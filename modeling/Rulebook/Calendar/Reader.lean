import Rulebook.Calendar.Moment
import Rulebook.Decimal.Reader

/-!
# Reading moments

A moment is read from a date with a time, from a date alone, or from a count of seconds
since 1970. A count above twenty thousand million is one of milliseconds. Counts give
moments of universal time; a date alone is midnight of an unknown offset.
-/

namespace Rulebook.Calendar

/-- The value of an ASCII digit. -/
def plainDigit? (c : Char) : Option Nat :=
  if c.isDigit then some (c.toNat - 48) else none

/-- Reads two digits. -/
def readTwo? : List Char → Option (Nat × List Char)
  | a :: b :: rest => do
    let a ← plainDigit? a
    let b ← plainDigit? b
    return (10 * a + b, rest)
  | _ => none

/-- Drops one expected character. -/
def expect? (c : Char) : List Char → Option (List Char)
  | d :: rest => if d == c then some rest else none
  | [] => none

/-- Reads a date and leaves the rest. -/
def readDate? (cs : List Char) : Option (Date × List Char) := do
  let (century, rest) ← readTwo? cs
  let (years, rest) ← readTwo? rest
  let rest ← expect? '-' rest
  let (month, rest) ← readTwo? rest
  let rest ← expect? '-' rest
  let (day, rest) ← readTwo? rest
  let date ← Date.of? (100 * century + years) month day
  return (date, rest)

/-- The microseconds that a run of fraction digits stands for; places beyond the sixth are
cut off. -/
def fractionMicros (digits : List Nat) : Nat :=
  Decimal.valueOf ((digits ++ List.replicate 6 0).take 6)

/-- Reads the seconds after the minutes, if any, with their fraction. -/
def readSeconds? (cs : List Char) : Option (Nat × Nat × List Char) :=
  match cs with
  | ':' :: rest => do
    let (second, rest) ← readTwo? rest
    match rest with
    | mark :: more =>
      if mark == '.' || mark == ',' then
        let digits := (more.takeWhile Char.isDigit).map (·.toNat - 48)
        if digits.isEmpty then none
        else return (second, fractionMicros digits, more.dropWhile Char.isDigit)
      else return (second, 0, rest)
    | [] => return (second, 0, [])
  | _ => some (0, 0, cs)

/-- Reads a time of day as microseconds. -/
def readClock? (cs : List Char) : Option (Nat × List Char) := do
  let (hour, rest) ← readTwo? cs
  let rest ← expect? ':' rest
  let (minute, rest) ← readTwo? rest
  let (second, micros, rest) ← readSeconds? rest
  if hour < 24 && minute < 60 && second < 60 then
    return (clockMicros hour minute second micros, rest)
  else none

/-- Reads the hours and minutes of an offset; the colon between them may be missing. The
offset stays below one day. -/
def readOffset? (cs : List Char) : Option Int := do
  let (hours, rest) ← readTwo? cs
  let rest := match rest with
    | ':' :: more => more
    | _ => rest
  let (minutes, rest) ← readTwo? rest
  if rest.isEmpty && minutes < 60 && hours < 24 then return (hours * 3600 + minutes * 60 : Nat)
  else none

/-- Reads the end of a moment: the mark of universal time, a signed offset, or nothing. -/
def readZone? : List Char → Option (Option Int)
  | [] => some none
  | ['Z'] => some (some 0)
  | ['z'] => some (some 0)
  | '+' :: rest => (readOffset? rest).map some
  | '-' :: rest => (readOffset? rest).map fun offset => some (-offset)
  | '−' :: rest => (readOffset? rest).map fun offset => some (-offset)
  | _ => none

/-- A moment from its parts, when the time lies within the day. -/
def Moment.of? (date : Date) (micros : Nat) (offset : Option Int) : Option Moment :=
  if within : micros < dayMicros then some ⟨date, micros, offset, within⟩ else none

/-- Reads a date with a time, or a date alone. -/
def readIso? (cs : List Char) : Option Moment := do
  let (date, rest) ← readDate? cs
  match rest with
  | [] => Moment.of? date 0 none
  | mark :: rest =>
    if mark == 'T' || mark == 't' || mark == ' ' || mark == '_' then do
      let (micros, rest) ← readClock? rest
      let offset ← readZone? rest
      Moment.of? date micros offset
    else none

/-- Day number of the first day of 1970. -/
def epochDay : Nat := 719162

/-- The size from which a count is one of milliseconds. -/
def countWatershed : Nat := 20000000000

/-- The moment of a count since 1970 with some more microseconds. Counts before the year
1600 or after the year 9999 are refused. -/
def ofCount? (count : Int) (micros : Int) : Option Moment :=
  let total : Int :=
    if count.natAbs ≤ countWatershed then count * 1000000 + micros else count * 1000 + micros
  if total.fdiv 1000000 < -11676096000 || 253402300799 < total.fdiv 1000000 then none
  else Moment.ofWall? (epochDay * dayMicros + total) (some 0)

/-- The moment of a floating-point count. Its fraction is rounded to microseconds. -/
def ofFloatCount? (count : Float) : Option Moment :=
  match Decimal.readFloat count with
  | .finite negative b =>
    let whole : Nat := b.num / b.den
    let rest := b.num % b.den
    let floor : Int := if negative then -(whole : Int) - (if rest == 0 then 0 else 1) else whole
    ofCount? floor (Decimal.roundDiv (rest * 1000000) b.den)
  | _ => none

/-- Reads a count written as text: a sign and digits, with a point for a fraction. -/
def readCount? (cs : List Char) : Option Moment :=
  let (negative, body) := Decimal.readSign cs
  let digits := body.takeWhile Char.isDigit
  let rest := body.dropWhile Char.isDigit
  let value : Int := Decimal.valueOf (digits.map (·.toNat - 48))
  match rest with
  | [] => if digits.isEmpty then none else ofCount? (if negative then -value else value) 0
  | '.' :: _ => (Decimal.readMagnitude? negative body).bind ofFloatCount?
  | _ => none

/-- Reads a moment from text. -/
def Moment.read? (s : String) : Option Moment :=
  match readIso? s.toList with
  | some m => some m
  | none => readCount? s.toList

end Rulebook.Calendar
