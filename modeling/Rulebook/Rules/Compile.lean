import Rulebook.Extract.BannedTerms
import Rulebook.Extract.Limit
import Rulebook.Extract.Stance
import Rulebook.Extract.Statement
import Rulebook.Extract.WikiNote
import Rulebook.Rules.Basic

/-!
# Compiling published rules

The automated rules of a community are compiled from its list of published rules and from
its wiki page. Either may be empty. Every rule contributes to every field: terms and tags
are collected, the strictest link policy wins, one rule that requires flair is enough,
and the first stated length is kept, since later ones are usually summaries.
-/

namespace Rulebook

open Extract

/-- The requirements that a wiki page states; an empty page states none. -/
def ManualFlags.ofWiki (wiki : String) : ManualFlags :=
  if wiki == "" then {}
  else
    { minKarma := (minKarma? wiki).map Int.ofNat
      minAccountAgeDays := (minAccountAgeDays? wiki).map Int.ofNat
      verificationRequired := requiresVerification wiki }

/-- The automated rules of a community. -/
def Rules.compile (statements : List Statement) (wiki : String) : Rules where
  bannedWords := Text.dedupe (statements.flatMap fun s => bannedTerms s.name s.description)
  linkPolicy := LinkPolicy.strictest (statements.map fun s => linkPolicy? s.name s.description)
  flairRequired := statements.any fun s => requiresFlair s.name s.description
  requiredTags := Text.dedupe (statements.flatMap fun s => bracketTags s.description)
  maxTitleLength :=
    (statements.findSome? fun s => maxTitleLength? s.description).map Int.ofNat
  maxBodyLength := (statements.findSome? fun s => maxBodyLength? s.description).map Int.ofNat
  manualFlags := ManualFlags.ofWiki wiki
  wikiNotes := Text.dedupe (Extract.wikiNotes wiki noteLimit)

end Rulebook
