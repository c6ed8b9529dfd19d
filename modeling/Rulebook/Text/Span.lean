/-!
# Spans of code points

A character class outside ASCII is a list of closed spans. Membership is the plain
disjunction over the spans, so a class is exactly the union that its table lists.
-/

namespace Rulebook.Text

/-- True when some span of the list contains the code point. -/
def covers (spans : List (Nat × Nat)) (point : Nat) : Bool :=
  spans.any fun span => span.1 ≤ point && point ≤ span.2

/-- A point is covered exactly when it lies between the ends of a listed span. -/
theorem covers_eq_true_iff (spans : List (Nat × Nat)) (point : Nat) :
    covers spans point = true ↔ ∃ span ∈ spans, span.1 ≤ point ∧ point ≤ span.2 := by
  simp [covers]

end Rulebook.Text
