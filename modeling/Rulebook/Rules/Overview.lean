import Rulebook.Calendar.Printer
import Rulebook.Json.Basic
import Rulebook.Rules.Basic

/-!
# The overview of a community's rules

The overview shows what a poster has to meet. It is a function of the specification
alone, and complete: what the specification leaves open shows as the system's default.
-/

namespace Rulebook

open Calendar (Moment)

/-- The title length that applies when a specification states none. -/
def defaultTitleLength : Int := 300

/-- The body length that applies when a specification states none. -/
def defaultBodyLength : Int := 10000

/-- What a poster has to meet. -/
structure Overview where
  minKarma : Int
  minAccountAgeDays : Int
  verificationRequired : Bool
  linkPolicy : LinkPolicy
  promotionAllowed : String
  flairRequired : Bool
  requiredTags : List String
  maxTitleLength : Int
  maxBodyLength : Int
  bannedWordCount : Nat
  notes : List String
  lastSyncedAt : Option Moment
deriving DecidableEq

/-- How far a link policy lets posts promote something. -/
def LinkPolicy.promotion : LinkPolicy → String
  | .noLink => "no"
  | .oneLink => "limited"
  | .ok => "yes"
  | .unknown => "unknown"

/-- A stated length; zero counts as none. -/
def shownLength (stated : Option Int) (default : Int) : Int :=
  match stated with
  | some length => if length == 0 then default else length
  | none => default

/-- The overview of a specification. Notes of the wiki follow those of the curators that
they do not repeat. -/
def RuleSpec.overview (spec : RuleSpec) : Overview :=
  let rules := spec.rules
  let flags := rules.manualFlags
  { minKarma := flags.minKarma.getD 0
    minAccountAgeDays := flags.minAccountAgeDays.getD 0
    verificationRequired := flags.verificationRequired
    linkPolicy := rules.linkPolicy
    promotionAllowed := rules.linkPolicy.promotion
    flairRequired := rules.flairRequired
    requiredTags := rules.requiredTags
    maxTitleLength := shownLength rules.maxTitleLength defaultTitleLength
    maxBodyLength := shownLength rules.maxBodyLength defaultBodyLength
    bannedWordCount := rules.bannedWords.length
    notes := flags.notes ++ rules.wikiNotes.filter fun note => !flags.notes.contains note
    lastSyncedAt := spec.source.bind (·.fetchedAt) }

/-- The overview as a document. -/
def Overview.document (overview : Overview) : Json :=
  .obj [
    ("eligibility", .obj [
      ("minKarma", .int overview.minKarma),
      ("minAccountAgeDays", .int overview.minAccountAgeDays),
      ("verificationRequired", .bool overview.verificationRequired)]),
    ("content", .obj [
      ("linkPolicy", .str overview.linkPolicy.name),
      ("promotionAllowed", .str overview.promotionAllowed),
      ("flairRequired", .bool overview.flairRequired),
      ("requiredTags", Json.strings overview.requiredTags),
      ("maxTitleLength", .int overview.maxTitleLength),
      ("maxBodyLength", .int overview.maxBodyLength),
      ("bannedWordCount", .int overview.bannedWordCount)]),
    ("notes", Json.strings overview.notes),
    ("lastSyncedAt", Json.ofOption (fun m => .str (Moment.text m)) overview.lastSyncedAt)]

end Rulebook
