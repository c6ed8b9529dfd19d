/-!
# JSON values

Integers and floating-point numbers stay apart, because `1` and `1.0` are read under
different rules by the fields of a document. An object keeps its fields in order of
first appearance; writing a field again replaces its value in place, so a key occurs at
most once in an object that was built by `put`.
-/

namespace Rulebook

/-- A JSON value. -/
inductive Json where
  | null
  | bool (value : Bool)
  | int (value : Int)
  | float (value : Float)
  | str (value : String)
  | arr (items : List Json)
  | obj (fields : List (String × Json))
deriving Inhabited

namespace Json

/-- Sets a field of an object's field list, in place if the key is there. -/
def put (key : String) (value : Json) : List (String × Json) → List (String × Json)
  | [] => [(key, value)]
  | field :: rest =>
    if field.1 == key then (key, value) :: rest else field :: put key value rest

/-- The value under a key of a field list. -/
def lookup? (key : String) (fields : List (String × Json)) : Option Json :=
  (fields.find? (·.1 == key)).map (·.2)

/-- The value under a key; nothing when the value is no object. -/
def get? (value : Json) (key : String) : Option Json :=
  match value with
  | .obj fields => lookup? key fields
  | _ => none

/-- The null value. -/
def isNull : Json → Bool
  | .null => true
  | _ => false

/-- Everything counts as true but null, false, zero and what is empty. -/
def truthy : Json → Bool
  | .null => false
  | .bool value => value
  | .int value => value != 0
  | .float value => value != 0.0
  | .str value => value != ""
  | .arr items => !items.isEmpty
  | .obj fields => !fields.isEmpty

/-- The text of a string value. -/
def text? : Json → Option String
  | .str value => some value
  | _ => none

/-- A list of strings as a value. -/
def strings (items : List String) : Json := .arr (items.map .str)

/-- The value inside an option, null without one. -/
def ofOption {α : Type} (encode : α → Json) : Option α → Json
  | some value => encode value
  | none => .null

theorem lookup?_put_self (key : String) (value : Json) (fields : List (String × Json)) :
    lookup? key (put key value fields) = some value := by
  induction fields with
  | nil => simp [put, lookup?]
  | cons field rest inductionHypothesis =>
    by_cases same : field.1 = key
    · simp [put, lookup?, same]
    · simpa [put, lookup?, same] using inductionHypothesis

theorem lookup?_put_of_ne (key other : String) (value : Json) (fields : List (String × Json))
    (different : other ≠ key) :
    lookup? other (put key value fields) = lookup? other fields := by
  induction fields with
  | nil => simp [put, lookup?, different.symm]
  | cons field rest inductionHypothesis =>
    by_cases same : field.1 = key
    · have apart : ¬ key = other := fun equal => different equal.symm
      simp [put, lookup?, same, apart]
    · by_cases here : field.1 = other
      · simp [put, lookup?, here, different]
      · simpa [put, lookup?, same, here] using inductionHypothesis

end Json

end Rulebook
