import Rulebook.Text.CharacterName

/-!
# The platform of patterns

Two things that decide whether a text is a pattern are not in the text. One is which characters
have names, since an escape can call a character by its name. The other is the stack: groups are
read by calls within one another, and texts that nest them too deeply exhaust what is left of it.

How many calls there is room for depends on those under way already. It depends on the text too,
since a pattern that has been read is taken apart by such calls once more, as many as the groups
have counts and branches inside. So a platform says it text by text.
-/

namespace Rulebook.Pattern

/-- What the reading of patterns takes from where it runs. -/
structure Platform where
  /-- The character with a name. -/
  named? : List Char → Option Char
  /-- The calls within one another that there is room for when a text is read. -/
  room : String → Nat

/-- A platform that knows the characters in common use, with a stack of the usual size and few
calls under way, whatever is read. -/
def Platform.common : Platform where
  named? name := (Text.pointNamed? name).map Char.ofNat
  room _ := 988

end Rulebook.Pattern
