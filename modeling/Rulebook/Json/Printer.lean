import Rulebook.Json.Basic
import Rulebook.Decimal.Printer
import Rulebook.Text.Quoted

/-!
# Writing JSON text

Strings are written in ASCII: what lies outside it is spelled by escapes, beyond the
sixteen-bit range by two of them. The indented form puts every item on a line of its own,
two spaces per level, and keeps empty arrays and objects on one line.
-/

namespace Rulebook.Json

/-- The escape of a sixteen-bit unit. -/
def escapeUnit (unit : Nat) : List Char := '\\' :: 'u' :: Text.hexDigits 4 unit

/-- How a character is written inside a string. -/
def escapeChar (c : Char) : List Char :=
  if c == '"' then ['\\', '"']
  else if c == '\\' then ['\\', '\\']
  else if c == '\n' then ['\\', 'n']
  else if c == '\r' then ['\\', 'r']
  else if c == '\t' then ['\\', 't']
  else if c == '\x0c' then ['\\', 'f']
  else if c == '\x08' then ['\\', 'b']
  else if 32 ≤ c.toNat && c.toNat < 127 then [c]
  else if c.toNat < 0x10000 then escapeUnit c.toNat
  else
    let point := c.toNat - 0x10000
    escapeUnit (0xd800 + point / 0x400) ++ escapeUnit (0xdc00 + point % 0x400)

/-- A string between quotes. -/
def stringText (s : String) : String :=
  String.ofList ('"' :: s.toList.flatMap escapeChar ++ ['"'])

/-- A floating-point number; infinities and the non-number are written by name. -/
def floatText (x : Float) : String :=
  match Decimal.readFloat x with
  | .finite _ _ => Decimal.shortest x
  | .infinite negative => if negative then "-Infinity" else "Infinity"
  | .notANumber => "NaN"

mutual

/-- The text of a value on one line without spaces. -/
def compact : Json → String
  | .null => "null"
  | .bool value => if value then "true" else "false"
  | .int value => toString value
  | .float value => floatText value
  | .str value => stringText value
  | .arr items => "[" ++ compactItems items ++ "]"
  | .obj fields => "\x7b" ++ compactFields fields ++ "\x7d"

/-- The items of an array, separated by commas. -/
def compactItems : List Json → String
  | [] => ""
  | [item] => compact item
  | item :: rest => compact item ++ "," ++ compactItems rest

/-- The fields of an object, separated by commas. -/
def compactFields : List (String × Json) → String
  | [] => ""
  | [(key, value)] => stringText key ++ ":" ++ compact value
  | (key, value) :: rest => stringText key ++ ":" ++ compact value ++ "," ++ compactFields rest

end

/-- A line break followed by the indentation of a level. -/
def lineBreak (level : Nat) : String := String.ofList ('\n' :: List.replicate (2 * level) ' ')

mutual

/-- The indented text of a value whose first line stands at the given level. -/
def indentedAt (level : Nat) : Json → String
  | .null => "null"
  | .bool value => if value then "true" else "false"
  | .int value => toString value
  | .float value => floatText value
  | .str value => stringText value
  | .arr [] => "[]"
  | .arr items => "[" ++ indentedItems (level + 1) items ++ lineBreak level ++ "]"
  | .obj [] => "\x7b\x7d"
  | .obj fields => "\x7b" ++ indentedFields (level + 1) fields ++ lineBreak level ++ "\x7d"

/-- The items of an array, each on a line of the given level. -/
def indentedItems (level : Nat) : List Json → String
  | [] => ""
  | [item] => lineBreak level ++ indentedAt level item
  | item :: rest => lineBreak level ++ indentedAt level item ++ "," ++ indentedItems level rest

/-- The fields of an object, each on a line of the given level. -/
def indentedFields (level : Nat) : List (String × Json) → String
  | [] => ""
  | [(key, value)] => lineBreak level ++ stringText key ++ ": " ++ indentedAt level value
  | (key, value) :: rest =>
    lineBreak level ++ stringText key ++ ": " ++ indentedAt level value ++ ","
      ++ indentedFields level rest

end

/-- The indented text of a value. -/
def indented (value : Json) : String := indentedAt 0 value

end Rulebook.Json
