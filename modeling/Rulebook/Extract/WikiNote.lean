import Rulebook.Text.Dedupe
import Rulebook.Text.Search

/-!
# Notes from the wiki

Lines of the wiki page about karma, account age or verification are kept as notes, up to
a limit and without repetitions.
-/

namespace Rulebook.Extract

/-- What a line must mention to become a note. -/
def noteWords : List String := ["karma", "account age", "verification", "verified"]

/-- The usual number of notes. -/
def noteLimit : Nat := 10

/-- True of lines that become notes. -/
def isNote (line : List Char) : Bool :=
  let small := Text.lower line
  !line.isEmpty && noteWords.any fun word => Text.occurs word.toList small

/-- All lines that qualify, trimmed, in order. -/
def noteLines (text : String) : List String :=
  (((Text.lines text.toList).map Text.trim).filter isNote).map String.ofList

/-- The notes of a text without repetitions. -/
def allNotes (text : String) : List String := Text.dedupe (noteLines text)

/-- The first notes of a text. -/
def wikiNotes (text : String) (limit : Nat) : List String := (allNotes text).take limit

/-- True when a text is about verification. -/
def requiresVerification (text : String) : Bool :=
  Text.mentions ["verification", "verified"] text.toList

end Rulebook.Extract
