import Rulebook.Decimal.Binary

/-!
# Writing floating-point numbers

The shortest text has the fewest digits that read back as the same number, and among
those the nearest. For one, two, … seventeen digits only the two neighbours of the value
on that decimal grid can read back, so the first grid with a hit decides. Digits are
positional while the leading one stands between the fourth place after the point and the
sixteenth place before it; otherwise a power of ten is written.

The fixed text rounds the exact value to six places, ties to even.
-/

namespace Rulebook.Decimal

/-- The decimal digits of a number, most significant first. -/
def digitsOf (n : Nat) : List Char := Nat.toDigits 10 n

/-- Position of the leading digit of `num / den`: the largest `e` with `10 ^ e` at most the
quotient, for quotients of at least `10 ^ (-400)`. -/
def leadingPlace (num den : Nat) : Int :=
  ((digitsOf (num * tenTo 400 / den)).length : Int) - 401

/-- True when `digits * 10 ^ place` reads back as the magnitude: it lies between the
midpoints to both neighbours, and on a midpoint only if the significand is even. -/
def readsBack (b : Binary) (digits : Nat) (place : Int) : Bool :=
  let point := digits * tenTo place.toNat * 4 * b.den
  let scale := twoTo b.exponent.toNat * tenTo (-place).toNat
  let low := (4 * b.significand - if b.significand == twoTo 52 then 1 else 2) * scale
  let high := (4 * b.significand + 2) * scale
  if b.significand % 2 == 0 then low ≤ point && point ≤ high else low < point && point < high

/-- The grid point of `count` digits that reads back and is nearest, if there is one. -/
def gridPoint? (b : Binary) (count : Nat) : Option (Nat × Int) :=
  let place := leadingPlace b.num b.den - (count : Int) + 1
  let num := b.num * tenTo (-place).toNat
  let den := b.den * tenTo place.toNat
  let below := num / den
  let nearest := roundDiv num den
  let other := if nearest == below then below + 1 else below
  if readsBack b nearest place then some (nearest, place)
  else if readsBack b other place then some (other, place)
  else none

/-- The shortest digits that read back, with the place of the last one. Seventeen digits
always do. -/
def shortestDigits (b : Binary) : Nat × Int :=
  ((List.range 17).findSome? fun count => gridPoint? b (count + 1)).getD (b.num / b.den, 0)

/-- Digits without the zeros at their end, with the place moved accordingly. -/
def dropZeros (digits : List Char) (place : Int) : List Char × Int :=
  let kept := (digits.reverse.dropWhile (· == '0')).reverse
  (kept, place + ((digits.length - kept.length : Nat) : Int))

/-- An exponent has a sign and at least two digits. -/
def exponentText (exponent : Int) : List Char :=
  let digits := digitsOf exponent.natAbs
  (if exponent < 0 then '-' else '+') :: (if digits.length < 2 then '0' :: digits else digits)

/-- Shortest text of a finite magnitude. -/
def shortestMagnitude (b : Binary) : List Char :=
  if b.significand == 0 then ['0', '.', '0']
  else
    let (value, place) := shortestDigits b
    let (digits, last) := dropZeros (digitsOf value) place
    let leading := last + (digits.length : Int) - 1
    if -4 ≤ leading && leading < 16 then
      if leading < 0 then
        '0' :: '.' :: (List.replicate (-leading - 1).toNat '0' ++ digits)
      else
        let whole := leading.toNat + 1
        let padded := digits ++ List.replicate (whole - digits.length) '0'
        let fraction := padded.drop whole
        padded.take whole ++ '.' :: (if fraction.isEmpty then ['0'] else fraction)
    else
      let tail := digits.drop 1
      digits.take 1 ++ (if tail.isEmpty then [] else '.' :: tail) ++ 'e' :: exponentText leading

/-- The shortest text of a number that reads back as the same number. -/
def shortest (x : Float) : String :=
  match readFloat x with
  | .finite negative b => String.ofList ((if negative then ['-'] else []) ++ shortestMagnitude b)
  | .infinite negative => if negative then "-inf" else "inf"
  | .notANumber => "nan"

/-- The text of a number with exactly six places. -/
def fixed (x : Float) : String :=
  match readFloat x with
  | .finite negative b =>
    let units := roundDiv (b.num * tenTo 6) b.den
    let places := digitsOf (units % tenTo 6)
    String.ofList ((if negative then ['-'] else []) ++ digitsOf (units / tenTo 6)
      ++ '.' :: (List.replicate (6 - places.length) '0' ++ places))
  | .infinite negative => if negative then "-inf" else "inf"
  | .notANumber => "nan"

end Rulebook.Decimal
