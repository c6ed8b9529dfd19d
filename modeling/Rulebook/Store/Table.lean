/-!
# Tables

A table is a list of rows that may vanish, and that may refuse changes. A table that has
vanished fails every access; one that refuses changes can still be read, and a change
that would touch no row does no harm.
-/

namespace Rulebook

/-- A table of the database. -/
structure Table (α : Type) where
  present : Bool := true
  writable : Bool := true
  rows : List α := []
deriving Repr, DecidableEq

namespace Table

variable {α : Type}

/-- The rows, if the table is there. -/
def read? (table : Table α) : Option (List α) := if table.present then some table.rows else none

/-- The table with other rows, if it is there and takes changes. -/
def write? (table : Table α) (rows : List α) : Option (Table α) :=
  if table.present && table.writable then some { table with rows } else none

/-- The table, created empty if it is not there. -/
def create (table : Table α) : Table α := if table.present then table else {}

/-- A table that is not there. -/
def missing : Table α := { present := false }

/-- Replaces the row under a key or inserts one in order of the keys. -/
def putRow (keyOf : α → String) (row : α) : List α → List α
  | [] => [row]
  | first :: rest =>
    if keyOf first == keyOf row then row :: rest
    else if keyOf row < keyOf first then row :: first :: rest
    else first :: putRow keyOf row rest

/-- The row under a key. -/
def rowAt? (keyOf : α → String) (key : String) (rows : List α) : Option α :=
  rows.find? (keyOf · == key)

theorem rowAt?_putRow_self (keyOf : α → String) (row : α) (rows : List α) :
    rowAt? keyOf (keyOf row) (putRow keyOf row rows) = some row := by
  induction rows with
  | nil => simp [putRow, rowAt?]
  | cons first rest inductionHypothesis =>
    by_cases same : keyOf first = keyOf row
    · simp [putRow, rowAt?, same]
    · by_cases before : keyOf row < keyOf first
      · simp [putRow, rowAt?, same, before]
      · simpa [putRow, rowAt?, same, before] using inductionHypothesis

theorem rowAt?_putRow_of_ne (keyOf : α → String) (row : α) (rows : List α) (key : String)
    (different : key ≠ keyOf row) :
    rowAt? keyOf key (putRow keyOf row rows) = rowAt? keyOf key rows := by
  have apart : ¬ keyOf row = key := fun same => different same.symm
  induction rows with
  | nil => simp [putRow, rowAt?, apart]
  | cons first rest inductionHypothesis =>
    by_cases same : keyOf first = keyOf row
    · simp [putRow, rowAt?, same, apart]
    · by_cases before : keyOf row < keyOf first
      · simp [putRow, rowAt?, same, before, apart]
      · have step : putRow keyOf row (first :: rest) = first :: putRow keyOf row rest := by
          rw [putRow, if_neg (by simpa using same), if_neg before]
        rw [step]
        simp only [rowAt?, List.find?_cons] at inductionHypothesis ⊢
        split
        · rfl
        · exact inductionHypothesis

end Table

end Rulebook
