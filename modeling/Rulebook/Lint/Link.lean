import Rulebook.Text.Blank
import Rulebook.Text.Search

/-!
# Links in posts

A link is an address with a scheme or a `www.` in front, or a bare host under one of a few
well-known domains with an optional path. It reaches as far as characters that may stand
in an address. Links are looked for from left to right and do not overlap.

A text is the sequence of its links and of the characters outside them. The number of
links and the redacted text are both read off this sequence, so redaction replaces
exactly the links that are counted.
-/

namespace Rulebook.Lint

open Text

/-- Characters that end an address: white space and brackets of any kind but braces. -/
def endsAddress (c : Char) : Bool :=
  isBlank c || c == '<' || c == '>' || c == '(' || c == ')' || c == '[' || c == ']'

/-- Letters and digits of a host name, in any spelling. -/
def isHostLetter (c : Char) : Bool := (spellings c).any Char.isAlphanum

/-- Characters of a host name. -/
def isHostChar (c : Char) : Bool := isHostLetter c || c == '-'

/-- Domains under which a bare host counts as a link. -/
def knownDomains : List String :=
  ["com", "net", "org", "io", "ly", "me", "co", "tv", "gg", "link", "xyz", "fans", "site"]

/-- Beginnings of an address. -/
def addressStarts : List String := ["https://", "http://", "www."]

/-- The text behind an address: a beginning and at least one more character. -/
def afterAddress? (cs : List Char) : Option (List Char) := do
  let rest ← addressStarts.findSome? fun start => afterWord? start.toList cs
  match rest with
  | c :: more => if endsAddress c then none else some (more.dropWhile (!endsAddress ·))
  | [] => none

/-- The text behind a known domain that ends at a word boundary. -/
def afterDomain? (cs : List Char) : Option (List Char) :=
  knownDomains.findSome? fun domain =>
    match afterWord? domain.toList cs with
    | some rest => if wordAt rest.head? then none else some rest
    | none => none

/-- The text behind the path of an address, if it has one. -/
def afterPath : List Char → List Char
  | '/' :: rest => rest.dropWhile (!endsAddress ·)
  | cs => cs

/-- The text behind a bare host, which must not continue a word. -/
def afterHost? (before : Option Char) (cs : List Char) : Option (List Char) :=
  match cs with
  | c :: _ =>
    if isHostLetter c && !wordAt before then
      match cs.dropWhile isHostChar with
      | '.' :: rest => (afterDomain? rest).map afterPath
      | _ => none
    else none
  | [] => none

/-- The text behind a link that begins here. -/
@[irreducible]
def afterLink? (before : Option Char) (cs : List Char) : Option (List Char) :=
  match afterAddress? cs with
  | some rest => some rest
  | none => afterHost? before cs

/-- A part of a text. -/
inductive Part where
  | link
  | plain (c : Char)
deriving Repr, DecidableEq

/-- The parts of a text, given the character before it and how many of its first
characters belong to a link that has been recorded already. -/
def partsAfter (before : Option Char) (covered : Nat) : List Char → List Part
  | [] => []
  | c :: rest =>
    if 0 < covered then partsAfter (some c) (covered - 1) rest
    else
      match afterLink? before (c :: rest) with
      | some left => .link :: partsAfter (some c) (rest.length - left.length) rest
      | none => .plain c :: partsAfter (some c) 0 rest

/-- The links of a text and the characters outside them. -/
def parts (cs : List Char) : List Part := partsAfter none 0 cs

/-- The number of links in a text. -/
def countLinks (text : String) : Nat := (parts text.toList).count .link

/-- What a part becomes in a redacted text. -/
def Part.redacted : Part → List Char
  | .link => "[link]".toList
  | .plain c => [c]

/-- A text with its links replaced. -/
def redactLinks (cs : List Char) : List Char := (parts cs).flatMap Part.redacted

/-- A redacted text cut to a length; a cut is shown by three dots. -/
def redactPreview (text : String) (limit : Int) : String :=
  let redacted := redactLinks text.toList
  if redacted.length ≤ limit then String.ofList redacted
  else String.ofList (redacted.take (limit - 3).toNat ++ ['.', '.', '.'])

end Rulebook.Lint
