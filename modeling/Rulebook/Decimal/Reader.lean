import Rulebook.Decimal.Binary
import Rulebook.Text.Blank
import Rulebook.Text.Digit

/-!
# Reading numbers

Numbers in free text may carry white space around them, digits of any script and single
underscores between digits. Integers of more than 4300 digits are refused. A decimal is
read exactly and rounded once to the nearest floating-point number.
-/

namespace Rulebook.Decimal

open Rulebook.Text

/-- The longest run of digits that converts to or from an integer. -/
def digitLimit : Nat := 4300

/-- The value of a run of digits. -/
def valueOf (digits : List Nat) : Nat := digits.foldl (fun value digit => 10 * value + digit) 0

/-- True of integers whose decimal text stays within the digit limit. -/
def isShort (i : Int) : Bool := i.natAbs < tenTo digitLimit

/-- Replaces digits of every script by their ASCII form. -/
def asciiDigits (cs : List Char) : List Char :=
  cs.map fun c =>
    match digitValue? c with
    | some value => Char.ofNat (48 + value)
    | none => c

/-- A run of ASCII digits and the rest of the text. After a digit, one underscore may
stand when another digit follows it; any other underscore stays in the rest. -/
def digitRunFrom (afterDigit : Bool) : List Char → List Nat × List Char
  | [] => ([], [])
  | c :: rest =>
    if c.isDigit then
      let (digits, left) := digitRunFrom true rest
      ((c.toNat - 48) :: digits, left)
    else if c == '_' && afterDigit && rest.head?.any Char.isDigit then digitRunFrom false rest
    else ([], c :: rest)

/-- The run of digits at the front of a text and the rest. -/
def digitRun (cs : List Char) : List Nat × List Char := digitRunFrom false cs

/-- Reads an optional sign; the flag is set for a minus. -/
def readSign : List Char → Bool × List Char
  | '-' :: rest => (true, rest)
  | '+' :: rest => (false, rest)
  | cs => (false, cs)

/-- Reads an integer from free text. -/
def readInt? (s : String) : Option Int :=
  let (negative, body) := readSign (asciiDigits (trimPadding s.toList))
  let (digits, rest) := digitRun body
  if digits.isEmpty || !rest.isEmpty || digits.length > digitLimit then none
  else some (if negative then -(valueOf digits : Int) else valueOf digits)

/-- A decimal `digits * 10 ^ exponent`. Exponents beyond every finite number are cut, so
that no huge power is ever formed. -/
def scientific (negative : Bool) (digits : Nat) (exponent : Int) : Float :=
  let infinity : Float := Float.ofBits (UInt64.ofNat
    (2047 * twoTo 52 + if negative then wordLimit else 0))
  let size : Int := (Nat.toDigits 10 digits).length
  if digits == 0 || size + exponent < -400 then (Binary.mk 0 0).toFloat negative
  else if 400 < size + exponent then infinity
  else
    match Binary.nearest? (digits * tenTo exponent.toNat) (tenTo (-exponent).toNat) with
    | some magnitude => magnitude.toFloat negative
    | none => infinity

/-- Reads an optional exponent; a mark without digits is left alone. -/
def readExponent (cs : List Char) : Int × List Char :=
  match cs with
  | mark :: rest =>
    if mark == 'e' || mark == 'E' then
      let (negative, body) := readSign rest
      let (digits, left) := digitRun body
      if digits.isEmpty then (0, cs)
      else (if negative then -(valueOf digits : Int) else valueOf digits, left)
    else (0, cs)
  | [] => (0, cs)

/-- Reads a decimal without its sign. -/
def readMagnitude? (negative : Bool) (cs : List Char) : Option Float :=
  let (whole, rest) := digitRun cs
  let (fraction, left) :=
    match rest with
    | '.' :: more => digitRun more
    | _ => ([], rest)
  let (exponent, tail) := readExponent left
  if (whole.isEmpty && fraction.isEmpty) || !tail.isEmpty then none
  else some (scientific negative (valueOf (whole ++ fraction)) (exponent - fraction.length))

/-- Reads a floating-point number from free text, including infinities and the
non-number by name. -/
def readFloat? (s : String) : Option Float :=
  let (negative, body) := readSign (asciiDigits (trimPadding s.toList))
  let name := body.map Char.toLower
  if name == "inf".toList || name == "infinity".toList then
    some (if negative then -1.0 / 0.0 else 1.0 / 0.0)
  else if name == "nan".toList then some (0.0 / 0.0)
  else readMagnitude? negative body

end Rulebook.Decimal
