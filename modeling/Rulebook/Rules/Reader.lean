import Rulebook.Document.Field
import Rulebook.Rules.Basic

/-!
# Reading specifications

A stored document may lack fields, hold nulls in them and use older spellings of their
keys; it then reads as the defaults. An unknown link policy in the rules reads as the
unknown policy, because older documents hold names that are no longer in use. In a
correction it is a problem, since there a curator meant something by it.

Corrections are applied again on reading, so that an edit of the stored document takes
effect before the rules are next synced.
-/

namespace Rulebook

open Document

namespace Rules

/-- The keys of the rule fields. -/
def bannedWordsKey : Key := ⟨"bannedWords", "banned_words"⟩
def titleRegexesKey : Key := ⟨"titleRegexes", "title_regexes"⟩
def bodyRegexesKey : Key := ⟨"bodyRegexes", "body_regexes"⟩
def linkPolicyKey : Key := ⟨"linkPolicy", "link_policy"⟩
def flairRequiredKey : Key := ⟨"flairRequired", "flair_required"⟩
def requiredTagsKey : Key := ⟨"requiredTags", "required_tags"⟩
def maxTitleLengthKey : Key := ⟨"maxTitleLength", "max_title_length"⟩
def maxBodyLengthKey : Key := ⟨"maxBodyLength", "max_body_length"⟩
def manualFlagsKey : Key := ⟨"manualFlags", "manual_flags"⟩
def wikiNotesKey : Key := ⟨"wikiNotes", "wiki_notes"⟩

end Rules

/-- Reads the manual flags. -/
def ManualFlags.read : Reader ManualFlags
  | path, .obj fields =>
    ManualFlags.mk
      <$> optional path fields ⟨"minKarma", "min_karma"⟩ readInteger
      <*> optional path fields ⟨"minAccountAgeDays", "min_account_age_days"⟩ readInteger
      <*> withDefault path fields ⟨"verificationRequired", "verification_required"⟩ false readTruth
      <*> withDefault path fields (.single "notes") [] (readList readText)
  | path, _ => problem path .mapping

/-- Reads the link policy of a rule document; names out of use read as unknown. -/
def LinkPolicy.readLenient : Reader LinkPolicy
  | _, .str name => .ok ((LinkPolicy.ofName? name).getD .unknown)
  | path, _ => problem path .choice

/-- Reads the ten rule fields of an object. -/
def Rules.readFields (path : Path) (fields : List (String × Json)) : Checked Rules :=
  Rules.mk
    <$> withDefault path fields bannedWordsKey [] (readList readText)
    <*> withDefault path fields titleRegexesKey [] (readList readText)
    <*> withDefault path fields bodyRegexesKey [] (readList readText)
    <*> withDefault path fields linkPolicyKey .unknown LinkPolicy.readLenient
    <*> withDefault path fields flairRequiredKey false readTruth
    <*> withDefault path fields requiredTagsKey [] (readList readText)
    <*> optional path fields maxTitleLengthKey readInteger
    <*> optional path fields maxBodyLengthKey readInteger
    <*> withDefault path fields manualFlagsKey {} ManualFlags.read
    <*> withDefault path fields wikiNotesKey [] (readList readText)

/-- Reads rules on their own. -/
def Rules.read : Reader Rules
  | path, .obj fields => Rules.readFields path fields
  | path, _ => problem path .mapping

/-- Reads corrections. -/
def Override.read : Reader Override
  | path, .obj fields =>
    Override.mk
      <$> optional path fields Rules.bannedWordsKey (readList readText)
      <*> optional path fields Rules.titleRegexesKey (readList readText)
      <*> optional path fields Rules.bodyRegexesKey (readList readText)
      <*> optional path fields Rules.linkPolicyKey (readChoice LinkPolicy.ofName?)
      <*> optional path fields Rules.flairRequiredKey readTruth
      <*> optional path fields Rules.requiredTagsKey (readList readText)
      <*> optional path fields Rules.maxTitleLengthKey readInteger
      <*> optional path fields Rules.maxBodyLengthKey readInteger
      <*> optional path fields Rules.manualFlagsKey ManualFlags.read
      <*> optional path fields Rules.wikiNotesKey (readList readText)
  | path, _ => problem path .mapping

/-- Reads the provenance. -/
def Provenance.read : Reader Provenance
  | path, .obj fields =>
    Provenance.mk
      <$> optional path fields ⟨"fetchedAt", "fetched_at"⟩ readMoment
      <*> optional path fields ⟨"aboutRulesUrl", "about_rules_url"⟩ readText
      <*> optional path fields ⟨"wikiRulesUrl", "wiki_rules_url"⟩ readText
      <*> withDefault path fields ⟨"automatedBase", "automated_base"⟩ {} Rules.read
  | path, _ => problem path .mapping

/-- Reads a specification as it is written, without applying its corrections. -/
def RuleSpec.readPlain : Reader RuleSpec
  | path, .obj fields =>
    RuleSpec.mk
      <$> Rules.readFields path fields
      <*> optional path fields (.single "overrides") Override.read
      <*> optional path fields (.single "source") Provenance.read
  | path, _ => problem path .mapping

/-- Reads a stored document. A document that counts as false reads as an empty one. -/
def RuleSpec.read (document : Json) : Checked RuleSpec :=
  (RuleSpec.readPlain [] (if document.truthy then document else .obj [])).map RuleSpec.reapply

end Rulebook
