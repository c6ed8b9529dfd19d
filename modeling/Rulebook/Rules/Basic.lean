import Rulebook.Calendar.Moment

/-!
# Rule specifications

A rule specification is the set of constraints that posts of a community are checked
against. It has an automated part, which is compiled from what the community publishes,
and corrections by curators. The effective rules are always the automated ones with the
corrections applied; the specification keeps both, and where the automated part came
from.

A correction replaces a whole field. A curator who corrects a list owns it from then on,
including what was taken out of it.
-/

namespace Rulebook

open Calendar (Moment)

/-- A community's tolerance of links. -/
inductive LinkPolicy where
  | unknown
  | ok
  | oneLink
  | noLink
deriving Repr, DecidableEq

namespace LinkPolicy

/-- The name of a policy in documents. -/
def name : LinkPolicy → String
  | .noLink => "no-link"
  | .oneLink => "one-link"
  | .ok => "ok"
  | .unknown => "unknown"

/-- The policy with a name. -/
def ofName? : String → Option LinkPolicy
  | "no-link" => some .noLink
  | "one-link" => some .oneLink
  | "ok" => some .ok
  | "unknown" => some .unknown
  | _ => none

/-- How much a policy restricts. -/
def strictness : LinkPolicy → Nat
  | .unknown => 0
  | .ok => 1
  | .oneLink => 2
  | .noLink => 3

/-- The stricter of two policies. -/
def stricter (p q : LinkPolicy) : LinkPolicy := if p.strictness < q.strictness then q else p

/-- The strictest of several policies; a rule without one has no say. -/
def strictest (policies : List (Option LinkPolicy)) : LinkPolicy :=
  policies.foldl (fun result policy => match policy with
    | some policy => result.stricter policy
    | none => result) .unknown

theorem strictness_injective (p q : LinkPolicy) (same : p.strictness = q.strictness) : p = q := by
  cases p <;> cases q <;> first | rfl | cases same

/-- The stricter policy is as strict as the stricter of both. -/
theorem strictness_stricter (p q : LinkPolicy) :
    (p.stricter q).strictness = max p.strictness q.strictness := by
  cases p <;> cases q <;> rfl

theorem ofName?_name (p : LinkPolicy) : ofName? p.name = some p := by cases p <;> rfl

end LinkPolicy

/-- Requirements on the poster that prose cannot be relied on to express. -/
structure ManualFlags where
  minKarma : Option Int := none
  minAccountAgeDays : Option Int := none
  verificationRequired : Bool := false
  notes : List String := []
deriving Repr, DecidableEq

/-- The ten rule fields. -/
structure Rules where
  bannedWords : List String := []
  titleRegexes : List String := []
  bodyRegexes : List String := []
  linkPolicy : LinkPolicy := .unknown
  flairRequired : Bool := false
  requiredTags : List String := []
  maxTitleLength : Option Int := none
  maxBodyLength : Option Int := none
  manualFlags : ManualFlags := {}
  wikiNotes : List String := []
deriving Repr, DecidableEq

/-- Corrections by curators, field by field. -/
structure Override where
  bannedWords : Option (List String) := none
  titleRegexes : Option (List String) := none
  bodyRegexes : Option (List String) := none
  linkPolicy : Option LinkPolicy := none
  flairRequired : Option Bool := none
  requiredTags : Option (List String) := none
  maxTitleLength : Option Int := none
  maxBodyLength : Option Int := none
  manualFlags : Option ManualFlags := none
  wikiNotes : Option (List String) := none
deriving Repr, DecidableEq

/-- Where the automated rules came from, and what they were. -/
structure Provenance where
  fetchedAt : Option Moment := none
  aboutRulesUrl : Option String := none
  wikiRulesUrl : Option String := none
  automatedBase : Rules := {}
deriving DecidableEq

/-- A full specification. Its rules are the effective ones. -/
structure RuleSpec where
  rules : Rules := {}
  overrides : Option Override := none
  source : Option Provenance := none
deriving DecidableEq

namespace Override

/-- True when nothing is corrected. -/
def isEmpty (o : Override) : Bool := o == {}

/-- The rules with the corrections in place. -/
def apply (o : Override) (rules : Rules) : Rules where
  bannedWords := o.bannedWords.getD rules.bannedWords
  titleRegexes := o.titleRegexes.getD rules.titleRegexes
  bodyRegexes := o.bodyRegexes.getD rules.bodyRegexes
  linkPolicy := o.linkPolicy.getD rules.linkPolicy
  flairRequired := o.flairRequired.getD rules.flairRequired
  requiredTags := o.requiredTags.getD rules.requiredTags
  maxTitleLength := o.maxTitleLength.or rules.maxTitleLength
  maxBodyLength := o.maxBodyLength.or rules.maxBodyLength
  manualFlags := o.manualFlags.getD rules.manualFlags
  wikiNotes := o.wikiNotes.getD rules.wikiNotes

@[simp] theorem apply_empty (rules : Rules) : Override.apply {} rules = rules := by
  cases rules; simp [apply]

end Override

/-- A specification from automated rules and corrections, its source still open. -/
def RuleSpec.merge (automated : Rules) (overrides : Option Override) : RuleSpec where
  rules :=
    match overrides with
    | some o => o.apply automated
    | none => automated
  overrides := overrides

/-- The specification with its corrections applied to its own rules. Corrections that a
curator made since the rules were merged take effect this way. -/
def RuleSpec.reapply (spec : RuleSpec) : RuleSpec :=
  match spec.overrides with
  | none => spec
  | some o =>
    if o.isEmpty then spec
    else { RuleSpec.merge spec.rules spec.overrides with source := spec.source }

end Rulebook
