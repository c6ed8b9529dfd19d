import Rulebook.Decimal.Power

/-!
# Binary floating point, exactly

A finite magnitude of double precision is `significand * 2 ^ exponent`. Rounding a
quotient of naturals to the nearest such magnitude is exact arithmetic: the exponent is
fixed first so that the quotient has at most 53 bits, and ties go to the even
significand. The conversions to and from the machine's type only move bits.
-/

namespace Rulebook.Decimal

/-- The quotient rounded to the nearest natural number, ties to the even one. -/
def roundDiv (num den : Nat) : Nat :=
  let quotient := num / den
  let twice := 2 * (num % den)
  if twice < den then quotient
  else if den < twice then quotient + 1
  else if quotient % 2 == 0 then quotient else quotient + 1

/-- A finite magnitude `significand * 2 ^ exponent`. -/
structure Binary where
  significand : Nat
  exponent : Int
deriving Repr, DecidableEq

/-- Numerator of the magnitude over `Binary.den`. -/
def Binary.num (b : Binary) : Nat := b.significand * twoTo b.exponent.toNat

/-- Denominator of the magnitude, a power of two. -/
def Binary.den (b : Binary) : Nat := twoTo (-b.exponent).toNat

/-- The exponent that leaves 53 bits of the quotient before the binary point, or the
smallest exponent of double precision when that is larger. -/
def quotientExponent (num den : Nat) : Int :=
  let guess : Int := (Nat.log2 num : Int) - (Nat.log2 den : Int) - 52
  let reaches : Bool := den * twoTo (guess + 52).toNat ≤ num * twoTo (-(guess + 52)).toNat
  max (if reaches then guess else guess - 1) (-1074)

/-- The magnitude nearest to a quotient, ties to even; nothing when it is too large for
double precision. The denominator is positive. -/
def Binary.nearest? (num den : Nat) : Option Binary :=
  if num == 0 then some ⟨0, 0⟩
  else
    let exponent := quotientExponent num den
    let significand := roundDiv (num * twoTo (-exponent).toNat) (den * twoTo exponent.toNat)
    let result : Binary :=
      if significand == twoTo 53 then ⟨twoTo 52, exponent + 1⟩ else ⟨significand, exponent⟩
    if 971 < result.exponent then none else some result

/-- The machine number with the magnitude and sign. -/
def Binary.toFloat (b : Binary) (negative : Bool) : Float :=
  let magnitude : Nat :=
    if b.significand < twoTo 52 then b.significand
    else (b.exponent + 1075).toNat * twoTo 52 + (b.significand - twoTo 52)
  Float.ofBits (UInt64.ofNat (magnitude + if negative then twoTo 63 else 0))

/-- What a machine number stands for. -/
inductive Reading where
  | finite (negative : Bool) (magnitude : Binary)
  | infinite (negative : Bool)
  | notANumber
deriving Repr, DecidableEq

/-- Takes a machine number apart. -/
def readFloat (x : Float) : Reading :=
  let bits : Nat := x.toBits.toNat
  let negative : Bool := twoTo 63 ≤ bits
  let biased : Nat := bits / twoTo 52 % twoTo 11
  let fraction : Nat := bits % twoTo 52
  if biased == 2047 then
    if fraction == 0 then .infinite negative else .notANumber
  else if biased == 0 then .finite negative ⟨fraction, -1074⟩
  else .finite negative ⟨fraction + twoTo 52, (biased : Int) - 1075⟩

/-- The machine number nearest to an integer; nothing when it is out of range. -/
def floatOfInt? (i : Int) : Option Float :=
  (Binary.nearest? i.natAbs 1).map (·.toFloat (i < 0))

/-- A machine number without its fraction; nothing for infinities and non-numbers. -/
def truncate? (x : Float) : Option Int :=
  match readFloat x with
  | .finite negative magnitude =>
    let whole : Int := (magnitude.num / magnitude.den : Nat)
    some (if negative then -whole else whole)
  | _ => none

/-- True of machine numbers without a fraction. -/
def isWhole (x : Float) : Bool :=
  match readFloat x with
  | .finite _ magnitude => magnitude.num % magnitude.den == 0
  | _ => false

/-- Compares an integer with a machine number exactly; nothing for non-numbers. -/
def compareIntFloat (i : Int) (x : Float) : Option Ordering :=
  match readFloat x with
  | .finite negative magnitude =>
    let scaled : Int := if negative then -(magnitude.num : Int) else magnitude.num
    some (compare (i * magnitude.den) scaled)
  | .infinite negative => some (if negative then .gt else .lt)
  | .notANumber => none

/-- Rounding to an integer is off by at most half a unit. -/
theorem two_mul_roundDiv_le (num den : Nat) : 2 * (den * roundDiv num den) ≤ 2 * num + den := by
  have split := Nat.div_add_mod num den
  simp only [roundDiv]
  split
  · omega
  · split
    · rw [Nat.mul_add]; omega
    · split
      · omega
      · rw [Nat.mul_add]; omega

end Rulebook.Decimal
