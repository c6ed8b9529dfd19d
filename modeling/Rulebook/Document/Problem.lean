/-!
# Problems in documents

A document is read field by field, and every field that cannot be read is reported. A
problem names the place by the keys and positions that lead to it, in the spelling of the
document, and the kind of value that was expected there.
-/

namespace Rulebook.Document

/-- What is wrong with a value. -/
inductive ProblemKind where
  | text
  | list
  | integer
  | integerText
  | integerSize
  | fraction
  | infinite
  | truth
  | truthText
  | choice
  | mapping
  | attributes
  | missing
  | moment
  | momentText
  | momentSize
deriving Repr, DecidableEq

/-- The published name of a kind. -/
def ProblemKind.name : ProblemKind → String
  | .text => "string_type"
  | .list => "list_type"
  | .integer => "int_type"
  | .integerText => "int_parsing"
  | .integerSize => "int_parsing_size"
  | .fraction => "int_from_float"
  | .infinite => "finite_number"
  | .truth => "bool_type"
  | .truthText => "bool_parsing"
  | .choice => "enum"
  | .mapping => "model_type"
  | .attributes => "model_attributes_type"
  | .missing => "missing"
  | .moment => "datetime_type"
  | .momentText => "datetime_from_date_parsing"
  | .momentSize => "datetime_parsing"

/-- A problem at a place. -/
structure Problem where
  path : List String
  kind : ProblemKind
deriving Repr, DecidableEq

/-- The place and the kind. -/
def Problem.text (problem : Problem) : String :=
  ".".intercalate problem.path ++ ": " ++ problem.kind.name

/-- All problems in one line. -/
def problemsText (problems : List Problem) : String :=
  "; ".intercalate (problems.map Problem.text)

end Rulebook.Document
