import Rulebook.Json.Printer
import Rulebook.Store.Basic

/-!
# Output of commands

A command ends with a status and prints to standard output at most one text. A document is
printed with indentation and a line end after it. One with an integer beyond the digit limit
cannot be printed, and the command fails.
-/

namespace Rulebook.CommandLine

/-- How a command ends. -/
inductive Status where
  | done
  | failed
  /-- The post that was checked is blocked. -/
  | blocked
  /-- The gate is closed. -/
  | denied
  /-- The command line makes no sense. -/
  | misused
deriving Repr, DecidableEq

/-- The number under which the status is reported. -/
def Status.code : Status → Nat
  | .done => 0
  | .failed => 1
  | .blocked => 2
  | .misused => 2
  | .denied => 3

/-- The status of a command and what it printed. -/
structure Output where
  status : Status
  text : String := ""
deriving Repr, DecidableEq

namespace Output

/-- A command that failed prints nothing. -/
def failed : Output := { status := .failed }

/-- Prints a line. -/
def line (status : Status) (text : String) : Output := { status, text := text ++ "\n" }

/-- Prints a document, if it can be written. -/
def document (status : Status) (value : Json) : Output :=
  if value.isStorable then line status value.indented else failed

end Output

end Rulebook.CommandLine
