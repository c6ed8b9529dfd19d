import Rulebook.Text.Blank
import Rulebook.Text.Case
import Rulebook.Text.Fold

/-!
# Community names

Users write a community as `r/Name` or `/r/Name`, with any case and stray characters. The
stores use one key for all of these: the name without white space around it and without
its mark, reduced to letters, digits and underscores, in lower case.

Letters are recognised ignoring case, so a letter outside ASCII that is another spelling
of an ASCII letter is kept, and keeps its own lower-case form.
-/

namespace Rulebook.Community

/-- Letters and digits of ASCII and the underscore. -/
def isPlainKeyChar (c : Char) : Bool := c.isAlphanum || c == '_'

/-- Characters that stay in a key: one of their spellings is a plain key character. -/
def isKeyChar (c : Char) : Bool := (Text.spellings c).any isPlainKeyChar

/-- Drops the mark in front of a name. -/
def dropMark : List Char → List Char
  | '/' :: r :: '/' :: rest => if Text.sameLetter 'r' r then rest else '/' :: r :: '/' :: rest
  | r :: '/' :: rest => if Text.sameLetter 'r' r then rest else r :: '/' :: rest
  | cs => cs

/-- The key of a community. -/
def key (name : String) : String :=
  String.ofList (Text.lower ((dropMark (Text.trim name.toList)).filter isKeyChar))

end Rulebook.Community
