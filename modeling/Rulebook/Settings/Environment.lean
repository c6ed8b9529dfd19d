/-!
# The environment

Variables come from two layers: the environment of the process, and a file that sets
variables one after the other. The process wins wherever it sets a variable, even to the
empty text. Where the file sets a variable more than once, the last time counts.
-/

namespace Rulebook

/-- The variables of the process, and those of the file in its order. -/
structure Environment where
  process : List (String × String) := []
  file : List (String × String) := []

namespace Environment

/-- The value of a variable. -/
def get? (environment : Environment) (name : String) : Option String :=
  match environment.process.lookup name with
  | some value => some value
  | none => environment.file.reverse.lookup name

end Environment

end Rulebook
