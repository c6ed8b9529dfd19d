import Rulebook.Fault
import Rulebook.Json.Shown

/-!
# Published rules

A community publishes its rules as a list of objects with a short name and a
description. A part that is missing or empty reads as the empty text, and one that is no
text is read as it would be shown.
-/

namespace Rulebook

/-- A published rule. -/
structure Statement where
  name : String
  description : String
deriving Repr, DecidableEq

namespace Json

/-- The text of a field of an object. -/
def fieldText (fields : List (String × Json)) (key : String) : Except Fault String :=
  match lookup? key fields with
  | none => .ok ""
  | some value =>
    if !value.truthy then .ok ""
    else
      match value.shown? with
      | some text => .ok text
      | none => .error .unconvertible

/-- The values that a value yields one by one: the items of a list, the keys of an object,
the characters of a text. -/
def elements : Json → Except Fault (List Json)
  | .arr items => .ok items
  | .obj fields => .ok (fields.map fun field => .str field.1)
  | .str text => .ok (text.toList.map fun c => .str (String.singleton c))
  | _ => .error .wrongType

end Json

/-- Reads a published rule. -/
def Statement.ofJson : Json → Except Fault Statement
  | .obj fields => do
    let name ← Json.fieldText fields "short_name"
    let description ← Json.fieldText fields "description"
    return ⟨name, description⟩
  | _ => .error .noSuchOperation

/-- Reads a list of published rules; a value that counts as false is an empty list. -/
def Statement.listOfJson (value : Json) : Except Fault (List Statement) :=
  if !value.truthy then .ok []
  else do
    let items ← value.elements
    items.mapM Statement.ofJson

end Rulebook
