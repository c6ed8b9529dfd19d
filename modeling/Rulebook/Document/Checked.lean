import Rulebook.Document.Problem

/-!
# Checked values

The result of reading a part of a document: a value, or the problems found in it. Two
parts are read independently, so the problems of both are kept, in the order of the
parts. Reading succeeds exactly when no part has a problem.
-/

namespace Rulebook.Document

/-- A value or the problems that prevent it. -/
inductive Checked (α : Type) where
  | ok (value : α)
  | bad (problems : List Problem)
deriving Repr

namespace Checked

variable {α β : Type}

/-- Applies a function to the value. -/
def map (f : α → β) : Checked α → Checked β
  | .ok value => .ok (f value)
  | .bad problems => .bad problems

/-- Applies a function that was read to an argument that was read. -/
def app : Checked (α → β) → Checked α → Checked β
  | .ok f, .ok value => .ok (f value)
  | .ok _, .bad problems => .bad problems
  | .bad problems, .ok _ => .bad problems
  | .bad first, .bad second => .bad (first ++ second)

instance : Functor Checked where
  map := map

instance : Pure Checked where
  pure := .ok

instance : Seq Checked where
  seq f value := app f (value ())

/-- Reads the items of a list, each with its own problems. -/
def all : List (Checked α) → Checked (List α)
  | [] => .ok []
  | item :: rest => app (map List.cons item) (all rest)

/-- The value, if there is one. -/
def value? : Checked α → Option α
  | .ok value => some value
  | .bad _ => none

/-- The problems, none for a value. -/
def problems : Checked α → List Problem
  | .ok _ => []
  | .bad problems => problems

@[simp] theorem map_ok (f : α → β) (value : α) : map f (.ok value) = .ok (f value) := rfl

/-- An application succeeds exactly when both sides do. -/
theorem app_eq_ok_iff (f : Checked (α → β)) (value : Checked α) (result : β) :
    app f value = .ok result ↔ ∃ g a, f = .ok g ∧ value = .ok a ∧ g a = result := by
  cases f <;> cases value <;> simp [app]

/-- A list is read exactly when every item is. -/
theorem all_map_ok (values : List α) : all (values.map .ok) = .ok values := by
  induction values with
  | nil => rfl
  | cons value rest inductionHypothesis => simp [all, inductionHypothesis, map, app]

end Checked

end Rulebook.Document
