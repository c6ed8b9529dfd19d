import Rulebook.Extract.BannedTerms
import Rulebook.Extract.Limit
import Rulebook.Extract.Stance
import Rulebook.Extract.WikiNote
import Rulebook.Json.Shown

/-!
# Asking a single extractor

Each extractor can be asked on its own about values of any type. A value that counts as
false is the empty text. An extractor that cannot use a value, or is given the wrong
number of them, has nothing to say: its answer is the empty one.
-/

namespace Rulebook.Extract

/-- The extractors by what they look for. -/
inductive Extractor where
  | terms
  | links
  | flair
  | tags
  | titleLength
  | bodyLength
  | karma
  | age
  | verification
  | notes
deriving Repr, DecidableEq

/-- The answer of an extractor that has nothing to say. -/
def Extractor.nothing : Extractor → Json
  | .terms | .tags | .notes => .arr []
  | .links | .titleLength | .bodyLength | .karma | .age => .null
  | .flair | .verification => .bool false

/-- The text that a value can be searched as. -/
def searchText? (value : Json) : Option String :=
  if value.truthy then value.text? else some ""

/-- A text is searched as it is, an empty one included. -/
theorem searchText?_str (text : String) : searchText? (.str text) = some text := by
  by_cases empty : text = ""
  · rw [empty]
    rfl
  · exact if_pos (bne_iff_ne.mpr empty)

/-- The text of a value inside a longer text. -/
def insertedText? (value : Json) : Option String :=
  if value.truthy then value.shown? else some ""

/-- The first entries up to a limit: all without one, all but the last few for a negative
one. -/
def upTo? (limit : Json) (entries : List String) : Option (List String) :=
  let cut (limit : Int) : List String :=
    if 0 ≤ limit then entries.take limit.toNat else entries.take (entries.length - limit.natAbs)
  match limit with
  | .null => some entries
  | .int limit => some (cut limit)
  | .bool limit => some (cut (if limit then 1 else 0))
  | _ => none

/-- A number as an answer. -/
def numberAnswer (number : Option Nat) : Json := Json.ofOption (fun n => .int n) number

/-- The answer of an extractor, if it can use the values. -/
def Extractor.ask? (extractor : Extractor) (values : List Json) : Option Json := do
  match extractor, values with
  | .terms, [name, description] =>
    return Json.strings (bannedTerms (← searchText? name) (← searchText? description))
  | .links, [name, description] =>
    return Json.ofOption (fun policy => .str (LinkPolicy.name policy))
      (linkPolicy? (← searchText? name) (← insertedText? description))
  | .flair, [name, description] =>
    return .bool (requiresFlair (← searchText? name) (← insertedText? description))
  | .tags, [text] => return Json.strings (bracketTags (← searchText? text))
  | .titleLength, [text] => return numberAnswer (maxTitleLength? (← searchText? text))
  | .bodyLength, [text] => return numberAnswer (maxBodyLength? (← searchText? text))
  | .karma, [text] => return numberAnswer (minKarma? (← searchText? text))
  | .age, [text] => return numberAnswer (minAccountAgeDays? (← searchText? text))
  | .verification, [text] => return .bool (requiresVerification (← searchText? text))
  | .notes, [text] => return Json.strings (Extract.wikiNotes (← searchText? text) noteLimit)
  | .notes, [text, limit] =>
    return Json.strings (← upTo? limit (allNotes (← searchText? text)))
  | _, _ => none

/-- The answer of an extractor to values of any type. -/
def Extractor.ask (extractor : Extractor) (values : List Json) : Json :=
  (extractor.ask? values).getD extractor.nothing

end Rulebook.Extract
