import Rulebook.Pattern.Matcher
import Rulebook.Rules.Basic
import Rulebook.Text.Search

/-!
# What a rule says about links, flair and tags

A rule about links or promotion states a link policy: none, one link, or, when it states
neither, that links are tolerated. A rule about flair may require it. Tags are written in
square brackets; a bracket that opens the target of a link after it is no tag.
-/

namespace Rulebook.Extract

open Pattern

/-- Words in the name of a rule about links. -/
def linkWords : List String := ["link", "promo", "spam", "advertis"]

/-- A statement that links are not allowed. -/
def noLinkPhrase : Pattern :=
  all [edge, word "no", atLeastOne blank,
    optional (.seq (word "self") (optional (among false [.one '-', .one ' ']))),
    oneOf [.seq (word "link") (optional (word "s")), word "promotion", word "promo",
      word "advertising"],
    edge]

/-- A statement that a single link is allowed. -/
def oneLinkPhrase : Pattern :=
  all [edge, words ["one", "single", "1"], atLeastOne blank,
    optional (.seq (word "promotional") (atLeastOne blank)), word "link", edge]

/-- The link policy of a rule, none for a rule about something else. -/
def linkPolicy? (name description : String) : Option LinkPolicy :=
  if Text.mentions linkWords name.toList then
    let text := name.toList ++ '\n' :: description.toList
    if noLinkPhrase.matches? text then some .noLink
    else if oneLinkPhrase.matches? text then some .oneLink
    else some .ok
  else none

/-- Words in the name of a rule about flair. -/
def flairWords : List String := ["flair", "tag"]

/-- Words that make a rule a requirement. -/
def dutyWords : List String := ["required", "must", "mandatory"]

/-- True when a rule requires flair. -/
def requiresFlair (name description : String) : Bool :=
  Text.mentions flairWords name.toList
    && Text.mentionsWhole dutyWords none (name.toList ++ '\n' :: description.toList)

/-- Characters that may stand in a tag. -/
def isTagChar (c : Char) : Bool := c != '[' && c != ']' && c != '\n'

/-- The largest number of characters inside a tag. -/
def tagLimit : Nat := 30

/-- The inside of a tag whose opening bracket has just been read. -/
def tagInside? (cs : List Char) : Option (List Char) :=
  let inside := cs.takeWhile isTagChar
  match cs.dropWhile isTagChar with
  | ']' :: rest =>
    if inside.isEmpty || tagLimit < inside.length || rest.head? == some '(' then none
    else some inside
  | _ => none

/-- All tags of a text in order. No bracket can open inside a tag, so every opening bracket
is looked at on its own. -/
def tagsOf : List Char → List String
  | [] => []
  | c :: rest =>
    if c == '[' then
      match tagInside? rest with
      | some inside => String.ofList ('[' :: inside ++ [']']) :: tagsOf rest
      | none => tagsOf rest
    else tagsOf rest

/-- The tags that a text mentions. -/
def bracketTags (text : String) : List String := tagsOf text.toList

end Rulebook.Extract
