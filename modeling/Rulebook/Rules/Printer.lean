import Rulebook.Calendar.Printer
import Rulebook.Json.Basic
import Rulebook.Rules.Basic

/-!
# Writing specifications

The stored document states every rule field. Corrections are written sparsely, only the
fields a curator set, also inside corrected flags, so the document shows exactly which
fields are owned by curators.
-/

namespace Rulebook

/-- The manual flags with all fields. -/
def ManualFlags.document (flags : ManualFlags) : Json :=
  .obj [("minKarma", Json.ofOption .int flags.minKarma),
    ("minAccountAgeDays", Json.ofOption .int flags.minAccountAgeDays),
    ("verificationRequired", .bool flags.verificationRequired),
    ("notes", Json.strings flags.notes)]

/-- The ten rule fields of a document. -/
def Rules.fields (rules : Rules) : List (String × Json) :=
  [("bannedWords", Json.strings rules.bannedWords),
    ("titleRegexes", Json.strings rules.titleRegexes),
    ("bodyRegexes", Json.strings rules.bodyRegexes),
    ("linkPolicy", .str rules.linkPolicy.name),
    ("flairRequired", .bool rules.flairRequired),
    ("requiredTags", Json.strings rules.requiredTags),
    ("maxTitleLength", Json.ofOption .int rules.maxTitleLength),
    ("maxBodyLength", Json.ofOption .int rules.maxBodyLength),
    ("manualFlags", rules.manualFlags.document),
    ("wikiNotes", Json.strings rules.wikiNotes)]

/-- The rules as a document of their own. -/
def Rules.document (rules : Rules) : Json := .obj rules.fields

/-- The provenance with all fields. -/
def Provenance.document (source : Provenance) : Json :=
  .obj [("fetchedAt", Json.ofOption (fun m => .str (Calendar.Moment.text m)) source.fetchedAt),
    ("aboutRulesUrl", Json.ofOption .str source.aboutRulesUrl),
    ("wikiRulesUrl", Json.ofOption .str source.wikiRulesUrl),
    ("automatedBase", source.automatedBase.document)]

/-- A field that is written only if it has a value. -/
def sparse {α : Type} (key : String) (encode : α → Json) : Option α → List (String × Json)
  | some value => [(key, encode value)]
  | none => []

/-- The manual flags without the open fields. -/
def ManualFlags.sparseDocument (flags : ManualFlags) : Json :=
  .obj (sparse "minKarma" .int flags.minKarma
    ++ sparse "minAccountAgeDays" .int flags.minAccountAgeDays
    ++ [("verificationRequired", .bool flags.verificationRequired),
      ("notes", Json.strings flags.notes)])

/-- The corrected fields. -/
def Override.document (o : Override) : Json :=
  .obj (sparse "bannedWords" Json.strings o.bannedWords
    ++ sparse "titleRegexes" Json.strings o.titleRegexes
    ++ sparse "bodyRegexes" Json.strings o.bodyRegexes
    ++ sparse "linkPolicy" (fun policy => .str (LinkPolicy.name policy)) o.linkPolicy
    ++ sparse "flairRequired" .bool o.flairRequired
    ++ sparse "requiredTags" Json.strings o.requiredTags
    ++ sparse "maxTitleLength" .int o.maxTitleLength
    ++ sparse "maxBodyLength" .int o.maxBodyLength
    ++ sparse "manualFlags" ManualFlags.sparseDocument o.manualFlags
    ++ sparse "wikiNotes" Json.strings o.wikiNotes)

/-- The document a specification is stored as. -/
def RuleSpec.document (spec : RuleSpec) : Json :=
  .obj (spec.rules.fields ++ [("source", Json.ofOption Provenance.document spec.source),
    ("overrides", Json.ofOption Override.document spec.overrides)])

end Rulebook
