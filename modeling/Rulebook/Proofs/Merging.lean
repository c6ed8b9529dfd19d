import Rulebook.Proofs.Documents

/-!
# Corrections act on rules

A correction takes the place of a whole field: of a list with all its entries, and of the manual
flags with all their requirements, those that it leaves open included. An empty list, a zero and a
plain no are corrections like any other. Only a field that no correction is given for keeps what the
rules say.

Merging can be told in two ways that come to the same: field by field, and on documents, where the
corrected fields are written over those of the rules and the result is read again. In either way
corrections that are made one after the other amount to the later ones over the earlier ones, and
made again they change nothing.
-/

namespace Rulebook

open Document

namespace Json

/-- The fields of a document with other entries written over them. -/
def overwrite (entries fields : List (String × Json)) : List (String × Json) :=
  entries.foldr (fun entry fields => put entry.1 entry.2 fields) fields

/-- What is found is what was written over, and what was there otherwise. -/
theorem lookup?_overwrite (key : String) (entries fields : List (String × Json)) :
    lookup? key (overwrite entries fields) = (lookup? key entries).or (lookup? key fields) := by
  induction entries with
  | nil => rfl
  | cons entry rest inductionHypothesis =>
    obtain ⟨name, value⟩ := entry
    rw [overwrite, List.foldr_cons, lookup?_cons]
    by_cases same : name = key
    · subst same
      rw [lookup?_put_self, if_pos rfl, Option.some_or]
    · rw [lookup?_put_of_ne name key value _ (Ne.symm same), if_neg same]
      exact inductionHypothesis

end Json

/-- A field holds its correction if there is one, and otherwise what it held before. -/
def IsCorrected {α : Type} (correction : Option α) (before after : α) : Prop :=
  (∀ value, correction = some value → after = value) ∧ (correction = none → after = before)

/-- There is one value that a corrected field holds. -/
theorem isCorrected_iff {α : Type} (correction : Option α) (before after : α) :
    IsCorrected correction before after ↔ after = correction.getD before := by
  cases correction <;> simp [IsCorrected]

/-- A size that may be missing is corrected to one that is there. -/
theorem isCorrected_map_some_iff {α : Type} (correction before after : Option α) :
    IsCorrected (correction.map some) before after ↔ after = correction.or before := by
  cases correction <;> simp [IsCorrected]

namespace Override

variable (o : Override) (rules : Rules)

/-- Corrected rules: each of the ten fields holds its correction or what it held before. -/
structure Corrects (before after : Rules) : Prop where
  bannedWords : IsCorrected o.bannedWords before.bannedWords after.bannedWords
  titleRegexes : IsCorrected o.titleRegexes before.titleRegexes after.titleRegexes
  bodyRegexes : IsCorrected o.bodyRegexes before.bodyRegexes after.bodyRegexes
  linkPolicy : IsCorrected o.linkPolicy before.linkPolicy after.linkPolicy
  flairRequired : IsCorrected o.flairRequired before.flairRequired after.flairRequired
  requiredTags : IsCorrected o.requiredTags before.requiredTags after.requiredTags
  maxTitleLength :
    IsCorrected (o.maxTitleLength.map some) before.maxTitleLength after.maxTitleLength
  maxBodyLength : IsCorrected (o.maxBodyLength.map some) before.maxBodyLength after.maxBodyLength
  manualFlags : IsCorrected o.manualFlags before.manualFlags after.manualFlags
  wikiNotes : IsCorrected o.wikiNotes before.wikiNotes after.wikiNotes

/-- Applied corrections correct every field. -/
theorem corrects_apply : o.Corrects rules (o.apply rules) where
  bannedWords := (isCorrected_iff _ _ _).mpr rfl
  titleRegexes := (isCorrected_iff _ _ _).mpr rfl
  bodyRegexes := (isCorrected_iff _ _ _).mpr rfl
  linkPolicy := (isCorrected_iff _ _ _).mpr rfl
  flairRequired := (isCorrected_iff _ _ _).mpr rfl
  requiredTags := (isCorrected_iff _ _ _).mpr rfl
  maxTitleLength := (isCorrected_map_some_iff _ _ _).mpr rfl
  maxBodyLength := (isCorrected_map_some_iff _ _ _).mpr rfl
  manualFlags := (isCorrected_iff _ _ _).mpr rfl
  wikiNotes := (isCorrected_iff _ _ _).mpr rfl

/-- Later corrections over earlier ones: of two corrections of a field the later one counts. -/
def onto (later earlier : Override) : Override where
  bannedWords := later.bannedWords.or earlier.bannedWords
  titleRegexes := later.titleRegexes.or earlier.titleRegexes
  bodyRegexes := later.bodyRegexes.or earlier.bodyRegexes
  linkPolicy := later.linkPolicy.or earlier.linkPolicy
  flairRequired := later.flairRequired.or earlier.flairRequired
  requiredTags := later.requiredTags.or earlier.requiredTags
  maxTitleLength := later.maxTitleLength.or earlier.maxTitleLength
  maxBodyLength := later.maxBodyLength.or earlier.maxBodyLength
  manualFlags := later.manualFlags.or earlier.manualFlags
  wikiNotes := later.wikiNotes.or earlier.wikiNotes

/-- Corrections over earlier ones do what both do one after the other. -/
theorem apply_onto (later earlier : Override) :
    (later.onto earlier).apply rules = later.apply (earlier.apply rules) := by
  simp only [apply, onto, Option.getD_or, Option.or_assoc]

/-- Corrections over themselves are the same corrections. -/
theorem onto_self : o.onto o = o := by
  simp only [onto, Option.or_self]

/-- Corrections that are applied again change nothing. -/
theorem apply_apply_self : o.apply (o.apply rules) = o.apply rules := by
  rw [← apply_onto, onto_self]

/-- Written over the fields of rules, corrections leave the corrected rules there. -/
theorem writtenIn_overwrite (entries : List (String × Json)) (corrections : Json)
    (written : o.document = .obj entries) :
    (o.apply rules).WrittenIn
      (Json.overwrite (entries ++ [("overrides", corrections)]) rules.fields) := by
  obtain rfl := Json.obj.inj written
  have field {α : Type} (key : String) (encode : α → Json) (correction : Option α) (before : α)
      (entries fields : List (String × Json))
      (corrected : Json.lookup? key entries = correction.map encode)
      (stated : Json.lookup? key fields = some (encode before)) :
      Json.lookup? key (Json.overwrite entries fields) =
        some (encode (correction.getD before)) := by
    rw [Json.lookup?_overwrite, corrected, stated]
    cases correction <;> rfl
  have size (key : String) (correction before : Option Int) (entries fields : List (String × Json))
      (corrected : Json.lookup? key entries = correction.map .int)
      (stated : Json.lookup? key fields = some (Json.ofOption .int before)) :
      Json.lookup? key (Json.overwrite entries fields) =
        some (Json.ofOption .int (correction.or before)) := by
    rw [Json.lookup?_overwrite, corrected, stated]
    cases correction <;> rfl
  exact
    { bannedWords := field _ Json.strings _ _ _ _ (by simp) rfl
      titleRegexes := field _ Json.strings _ _ _ _ (by simp) rfl
      bodyRegexes := field _ Json.strings _ _ _ _ (by simp) rfl
      linkPolicy := field _ (fun policy => .str (LinkPolicy.name policy)) _ _ _ _ (by simp) rfl
      flairRequired := field _ Json.bool _ _ _ _ (by simp) rfl
      requiredTags := field _ Json.strings _ _ _ _ (by simp) rfl
      maxTitleLength := size _ _ _ _ _ (by simp) rfl
      maxBodyLength := size _ _ _ _ _ (by simp) rfl
      manualFlags := by
        -- Corrected flags are written without their open fields, the others with them.
        unfold apply
        cases flags : o.manualFlags with
        | none => exact Or.inl (by simp [Json.lookup?_overwrite, Rules.fields])
        | some corrected => exact Or.inr (by simp [Json.lookup?_overwrite])
      wikiNotes := field _ Json.strings _ _ _ _ (by simp) rfl }

end Override

namespace RuleSpec

/-- Merging on documents: the rules are written, the corrected fields are written over them, then
the corrections themselves, and what is there now is read. It gives what merging field by field
does. -/
theorem readPlain_overwrite (rules : Rules) (overrides : Option Override) :
    ∃ entries, (overrides.getD {}).document = .obj entries ∧
      readPlain [] (.obj (Json.overwrite
        (entries ++ [("overrides", Json.ofOption Override.document overrides)]) rules.fields)) =
          .ok (merge rules overrides) := by
  refine ⟨_, rfl, ?_⟩
  have corrected := ((overrides.getD {}).writtenIn_overwrite rules _
    (Json.ofOption Override.document overrides) rfl).read []
  have applied : (overrides.getD {}).apply rules = (merge rules overrides).rules := by
    cases overrides with
    | none => exact Override.apply_empty rules
    | some o => rfl
  refine (readPlain_eq_ok_iff [] _ _).mpr ⟨applied ▸ corrected, ?_, ?_⟩
  · refine optional_of_states _ _ (.single "overrides") _ Override.document overrides (Or.inl ?_)
      (by simp [Override.document]) (fun o _ => Override.read_document _ o)
    simp [Json.lookup?_overwrite, Key.single]
  · refine optional_of_states _ _ (.single "source") _ Provenance.document none (Or.inr ?_)
      (by simp [Provenance.document]) (by rintro source ⟨⟩)
    simp [Json.lookup?_overwrite, Key.single, Rules.fields]

/-- Merging corrects rules field by field, and merging again acts like merging once.

The result of merging holds in each of the ten fields the correction, if there is one, and what the
rules say otherwise; it carries the corrections and no source, and it is what writing the corrected
fields over the written rules reads as. Missing and empty corrections leave the rules as they are.
Corrections of rules that are corrected already do what they do over the earlier ones, and the same
corrections made again change nothing. -/
theorem merge_is_action (rules : Rules) (first second : Override) :
    (first.Corrects rules (merge rules (some first)).rules ∧
      (merge rules (some first)).overrides = some first ∧
      (merge rules (some first)).source = none) ∧
    (∀ overrides : Option Override, ∃ entries, (overrides.getD {}).document = .obj entries ∧
      readPlain [] (.obj (Json.overwrite
        (entries ++ [("overrides", Json.ofOption Override.document overrides)]) rules.fields)) =
          .ok (merge rules overrides)) ∧
    merge rules none = { rules := rules } ∧ (merge rules (some {})).rules = rules ∧
    (merge (merge rules (some first)).rules (some second)).rules =
      (merge rules (some (second.onto first))).rules ∧
    merge (merge rules (some first)).rules (some first) = merge rules (some first) := by
  have again : merge (first.apply rules) (some first) = merge rules (some first) :=
    congrArg (RuleSpec.mk · (some first) none) (first.apply_apply_self rules)
  exact ⟨⟨first.corrects_apply rules, rfl, rfl⟩, readPlain_overwrite rules, rfl,
    Override.apply_empty rules, (Override.apply_onto rules second first).symm, again⟩

/-- An empty list, a zero and a plain no are corrections, and flags are not merged. -/
example :
    (merge { bannedWords := ["spam"], flairRequired := true, maxTitleLength := some 80,
             manualFlags := { minKarma := some 10 }, wikiNotes := ["Be kind"] }
      (some { bannedWords := some [], flairRequired := some false, maxTitleLength := some 0,
              manualFlags := some { verificationRequired := true } })).rules =
      { maxTitleLength := some 0, manualFlags := { verificationRequired := true },
        wikiNotes := ["Be kind"] } := rfl

end RuleSpec

end Rulebook
