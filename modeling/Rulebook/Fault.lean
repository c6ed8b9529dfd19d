/-!
# Faults

Where a value of the wrong shape or size reaches a place that does not expect it, the
operation breaks off with a fault. A fault says which expectation failed and nothing
about the place.
-/

namespace Rulebook

/-- An expectation about a value that does not hold. -/
inductive Fault where
  /-- The value has no such operation. -/
  | noSuchOperation
  /-- An operation does not take values of this type. -/
  | wrongType
  /-- A number or a date leaves the range that can be represented. -/
  | outOfRange
  | divisionByZero
  /-- A text or a number cannot be converted. -/
  | unconvertible
  /-- Calls lie too deep in one another for the stack. -/
  | tooDeep
  /-- The operating system reports an error. -/
  | system
deriving Repr, DecidableEq

end Rulebook
