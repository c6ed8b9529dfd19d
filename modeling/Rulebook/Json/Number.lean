import Rulebook.Decimal.Reader
import Rulebook.Fault
import Rulebook.Json.Basic

/-!
# Numbers among values

Settings and headers may hold integers of any size and floating-point numbers, and a truth
value counts as zero or one. Two numbers are compared exactly, also across the two kinds;
a non-number compares with nothing.
-/

namespace Rulebook

/-- A number of either kind. -/
inductive Number where
  | int (value : Int)
  | float (value : Float)

namespace Number

/-- The order of two numbers, none when one of them is no number. -/
def order? : Number → Number → Option Ordering
  | .int a, .int b => some (compare a b)
  | .int a, .float b => Decimal.compareIntFloat a b
  | .float a, .int b => (Decimal.compareIntFloat b a).map Ordering.swap
  | .float a, .float b =>
    if a < b then some .lt else if b < a then some .gt else if a == b then some .eq else none

/-- True when the first number is smaller. -/
def less (a b : Number) : Bool := a.order? b == some .lt

/-- True when the first number is smaller or both are equal. -/
def atMost (a b : Number) : Bool := a.order? b == some .lt || a.order? b == some .eq

/-- The floating-point number nearest to a number. -/
def toFloat : Number → Except Fault Float
  | .float value => .ok value
  | .int value =>
    match Decimal.floatOfInt? value with
    | some value => .ok value
    | none => .error .outOfRange

/-- The smallest integer that is not below the number; an integer is below the number
exactly when it is below this one. None for infinities and non-numbers. -/
def ceiling? : Number → Option Int
  | .int value => some value
  | .float value =>
    match Decimal.readFloat value with
    | .finite negative magnitude =>
      let scaled : Int := if negative then -(magnitude.num : Int) else magnitude.num
      some (-((-scaled).fdiv magnitude.den))
    | _ => none

end Number

/-- The number that a value is. -/
def Json.number? : Json → Option Number
  | .int value => some (.int value)
  | .float value => some (.float value)
  | .bool value => some (.int (if value then 1 else 0))
  | _ => none

/-- The number that a setting must be. -/
def Json.number (value : Json) : Except Fault Number :=
  match value.number? with
  | some number => .ok number
  | none => .error .wrongType

end Rulebook
