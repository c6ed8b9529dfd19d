import Rulebook.Pattern.Matcher
import Rulebook.Text.Search

/-!
# Banned terms

A rule whose name is about banned content may list terms after a keyword and a colon. The
colon is required, so prose about banned users does not turn into banned terms. Terms are
separated by commas or semicolons, lose quotes around them, and must be longer than two
characters.
-/

namespace Rulebook.Extract

open Pattern

/-- Words that announce banned content. -/
def banWords : List String := ["banned", "prohibited", "forbidden", "not allowed"]

/-- A word with an optional plural mark. -/
def plural (s : String) : Pattern := .seq (word s) (optional (word "s"))

/-- A keyword, perhaps what kind of terms follow, a colon, and the list up to the end of
the sentence or line. -/
def bannedList : Pattern :=
  all [words banWords,
    optional (.seq (atLeastOne blank) (oneOf [plural "word", plural "term", plural "phrase"])),
    many blank, word ":", many blank,
    .group 1 (atLeastOne (among true [.one '.', .one '!', .one '?', .one '\n']))]

/-- The parts of a text between separators. -/
def partsBetween (separates : Char → Bool) : List Char → List (List Char)
  | [] => [[]]
  | c :: rest =>
    let parts := partsBetween separates rest
    if separates c then [] :: parts else (c :: parts.headD []) :: parts.drop 1

/-- Removes quotes at both ends. -/
def stripQuotes (cs : List Char) : List Char :=
  let isQuote (c : Char) : Bool := c == '"' || c == '\''
  ((cs.dropWhile isQuote).reverse.dropWhile isQuote).reverse

/-- A listed term as it is checked for, if it is long enough. -/
def bannedTerm? (part : List Char) : Option String :=
  let term := Text.lower (stripQuotes (Text.trim part))
  if 2 < term.length then some (String.ofList term) else none

/-- The terms that a rule bans. -/
def bannedTerms (name description : String) : List String :=
  if Text.mentions banWords name.toList then
    (bannedList.findAll description.toList).flatMap fun found =>
      (partsBetween (fun c => c == ',' || c == ';') ((found.group? 1).getD [])).filterMap
        bannedTerm?
  else []

end Rulebook.Extract
