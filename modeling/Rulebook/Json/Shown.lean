import Rulebook.Json.Basic
import Rulebook.Decimal.Printer
import Rulebook.Decimal.Reader
import Rulebook.Text.Quoted

/-!
# Values inside running text

A rule list may give a name or a description that is no string. Such a value is shown
the way a console shows it: constants by capitalised names, strings inside lists and
mappings in quotes, a comma and a space between items. An integer beyond the digit limit
cannot be shown, and then neither can the value around it.
-/

namespace Rulebook.Json

mutual

/-- The text of a value that stands inside a list or a mapping. -/
def nestedText? : Json → Option String
  | .null => some "None"
  | .bool value => some (if value then "True" else "False")
  | .int value => if Decimal.isShort value then some (toString value) else none
  | .float value => some (Decimal.shortest value)
  | .str value => some (Text.quoted value)
  | .arr items => (nestedItems? items).map fun texts => "[" ++ ", ".intercalate texts ++ "]"
  | .obj fields =>
    (nestedFields? fields).map fun texts => "\x7b" ++ ", ".intercalate texts ++ "\x7d"

/-- The texts of the items of a list. -/
def nestedItems? : List Json → Option (List String)
  | [] => some []
  | item :: rest => do
    let text ← nestedText? item
    let texts ← nestedItems? rest
    return text :: texts

/-- The texts of the entries of a mapping. -/
def nestedFields? : List (String × Json) → Option (List String)
  | [] => some []
  | (key, value) :: rest => do
    let text ← nestedText? value
    let texts ← nestedFields? rest
    return (Text.quoted key ++ ": " ++ text) :: texts

end

/-- The text of a value on its own: a string is shown as it is. -/
def shown? : Json → Option String
  | .str value => some value
  | value => nestedText? value

end Rulebook.Json
