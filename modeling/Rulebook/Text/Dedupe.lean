import Rulebook.Text.Blank
import Rulebook.Text.Case

/-!
# Removing repeated entries

Two entries count as the same when they agree after trimming and lowering. Of equal
entries the first one stays, trimmed; blank entries are dropped.
-/

namespace Rulebook.Text

/-- What entries are compared by. -/
def entryKey (entry : String) : String := lowered (trimmed entry)

/-- The entries that are neither blank nor among the keys already seen. -/
def dedupeAfter (seen : List String) : List String → List String
  | [] => []
  | entry :: rest =>
    let key := entryKey entry
    if key == "" || seen.contains key then dedupeAfter seen rest
    else trimmed entry :: dedupeAfter (key :: seen) rest

/-- The entries without blanks and repetitions, in order of first occurrence. -/
def dedupe (entries : List String) : List String := dedupeAfter [] entries

/-- The same where entries may be missing; these are passed over as blank ones are. -/
def dedupeGiven (entries : List (Option String)) : List String := dedupe (entries.filterMap id)

end Rulebook.Text
