import Rulebook.Text.Blank

/-!
# Files of variables

The program takes the variables of a file from its `NAME=value` lines, the usual case of such
files. Quoted values and names within values are beyond it. Settings are read from variables,
wherever they come from.
-/

namespace Rulebook.Program

/-- Cuts a value before a comment, which is a `#` with white space before it. -/
def withoutComment : List Char → List Char
  | [] => []
  | c :: rest =>
    if Text.isBlank c && (rest.dropWhile Text.isBlank).head? == some '#' then []
    else c :: withoutComment rest

/-- Reads a line; a blank one, a comment and one without a value give nothing. -/
def readVariable? (line : List Char) : Option (String × String) :=
  let line := Text.trim line
  let name := line.takeWhile fun c => c != '=' && c != '#' && !Text.isBlank c
  match (line.drop name.length).dropWhile Text.isBlank with
  | '=' :: value =>
    if name.isEmpty then none
    else some (String.ofList name, String.ofList (withoutComment (Text.trim value)))
  | _ => none

/-- The variables that a file sets. -/
def fileVariables (text : String) : List (String × String) :=
  ((text.toList.splitBy fun before _ => before != '\n').filterMap readVariable?)

end Rulebook.Program
