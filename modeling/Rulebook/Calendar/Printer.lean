import Rulebook.Calendar.Moment

/-!
# Writing moments

A moment is written as a date, a `T` and a time. Microseconds appear as six digits only
when there are any. Universal time ends in `Z`, every other offset in signed hours and
minutes, an unknown one in nothing. Tables show moments without their offsets.
-/

namespace Rulebook.Calendar

/-- A number with zeros in front up to the given width. -/
def padded (width value : Nat) : List Char :=
  let digits := Nat.toDigits 10 value
  List.replicate (width - digits.length) '0' ++ digits

/-- Year, month and day. -/
def Date.chars (date : Date) : List Char :=
  padded 4 date.year ++ '-' :: padded 2 date.month ++ '-' :: padded 2 date.day

/-- Hours, minutes and seconds. -/
def clockChars (micros : Nat) : List Char :=
  let seconds := micros / 1000000
  padded 2 (seconds / 3600) ++ ':' :: padded 2 (seconds / 60 % 60) ++ ':' :: padded 2 (seconds % 60)

/-- The microseconds within the second, with the point before them. -/
def fractionChars (micros : Nat) : List Char := '.' :: padded 6 (micros % 1000000)

/-- The offset of a clock. -/
def offsetChars : Option Int → List Char
  | none => []
  | some offset =>
    if offset == 0 then ['Z']
    else
      let minutes := offset.natAbs / 60
      (if offset < 0 then '-' else '+') :: padded 2 (minutes / 60) ++ ':' :: padded 2 (minutes % 60)

/-- The text of a moment in a document. -/
def Moment.text (m : Moment) : String :=
  String.ofList (m.date.chars ++ 'T' :: clockChars m.micros
    ++ (if m.micros % 1000000 == 0 then [] else fractionChars m.micros) ++ offsetChars m.offset)

/-- The text of a moment as a table shows it, without its offset. -/
def Moment.columnText (m : Moment) : String := { m with offset := none : Moment }.text

/-- The characters under which a table keeps a moment of universal time: all parts in full
width, the largest first, so that these texts compare as the moments do. -/
def Moment.stamp (m : Moment) : List Char :=
  m.date.chars ++ ' ' :: (clockChars m.micros ++ fractionChars m.micros)

end Rulebook.Calendar
