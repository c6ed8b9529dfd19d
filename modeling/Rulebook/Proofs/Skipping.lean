import Rulebook.Proofs.Depth
import Rulebook.Proofs.Violations

/-!
# Checking with patterns that are refused

A malformed pattern is skipped: a check gives the verdict that it gives under the rules without the
pattern, wherever among the others it stands.

Not every pattern that is refused is malformed. A count in braces that is too large or too long to be
held, a contradiction between the flags and groups too deep in one another are not excused, and the
check breaks off at the first pattern with one of these. A modest pattern has neither of the first
two, and the platform says what there is room for. The laws hold on every platform.
-/

namespace Rulebook

namespace Lint

variable (platform : Pattern.Platform)

/-- A pattern is usable when it can be compiled. -/
def IsUsable (pattern : String) : Prop := ∃ compiled, Pattern.read platform pattern = .ok compiled

instance (pattern : String) : Decidable (IsUsable platform pattern) :=
  match read : Pattern.read platform pattern with
  | .ok compiled => isTrue ⟨compiled, read⟩
  | .error _ => isFalse fun ⟨_, usable⟩ => by cases read.symm.trans usable

/-- The fault that a check breaks off with at a pattern that is refused and not excused. -/
def refusal? (pattern : String) : Option Fault :=
  match Pattern.read platform pattern with
  | .ok _ => none
  | .error .malformed => none
  | .error .countTooLarge => some .outOfRange
  | .error .countTooLong => some .unconvertible
  | .error .flagsConflict => some .unconvertible
  | .error .tooDeep => some .tooDeep

variable {platform}

/-- Nothing is wrong with a usable pattern. -/
theorem refusal?_of_isUsable {pattern : String} (usable : IsUsable platform pattern) :
    refusal? platform pattern = none := by
  obtain ⟨compiled, read⟩ := usable
  rw [refusal?, read]

/-- A contradiction between the flags is not excused. -/
example : refusal? .common "(?a)(?u)x" = some .unconvertible := by decide +kernel

/-- A modest pattern with room for its groups is excused when it is refused. -/
theorem refusal?_of_isModest {pattern : String} (modest : Pattern.IsModest pattern.toList)
    (fits : 2 * pattern.toList.count '(' ≤ platform.room pattern) :
    refusal? platform pattern = none := by
  unfold refusal?
  cases read : Pattern.read platform pattern with
  | ok compiled => rfl
  | error defect =>
    obtain rfl := Pattern.malformed_of_isModest modest fits read
    rfl

/-- Parentheses in a row are not excused exactly when there is no room for all that open. -/
theorem refusal?_nestedText (opened closed : Nat) :
    refusal? platform (Pattern.nestedText opened closed) =
      if platform.room (Pattern.nestedText opened closed) < 2 * opened then some .tooDeep
      else none := by
  split
  · next scarce => rw [refusal?, Pattern.read_nested scarce]
  · next roomy =>
    refine refusal?_of_isModest (Pattern.isModest_nestedText opened closed) ?_
    rw [Pattern.count_nestedText]
    omega

/-- Only a usable pattern catches a text. -/
theorem Catches.isUsable {text pattern : String} (catches : Catches platform text pattern) :
    IsUsable platform pattern := by
  obtain ⟨compiled, read, -⟩ := catches
  exact ⟨compiled, read⟩

variable (platform)

/-- Whether a pattern catches a text is told unless its refusal is not excused. -/
theorem patternMatches_eq (pattern text : String) : patternMatches platform pattern text =
    match refusal? platform pattern with
    | some fault => .error fault
    | none => .ok (decide (Catches platform text pattern)) := by
  unfold patternMatches refusal?
  cases read : Pattern.read platform pattern with
  | ok compiled =>
    simp only [catches_iff_of_read platform text pattern compiled read, Bool.decide_eq_true]
  | error defect =>
    have uncaught := decide_eq_false (not_catches_of_read platform text pattern defect read)
    cases defect with
    | malformed => exact congrArg Except.ok uncaught.symm
    | countTooLarge => rfl
    | countTooLong => rfl
    | flagsConflict => rfl
    | tooDeep => rfl

/-- The violations of patterns are told up to the first refusal that is not excused. -/
theorem patternViolations_eq_match (part text : String) (patterns : List String) :
    patternViolations platform part text patterns =
      match patterns.findSome? (refusal? platform) with
      | some fault => .error fault
      | none => .ok ((patterns.filter fun pattern => decide (Catches platform text pattern)).map
          (patternMessage part)) := by
  induction patterns with
  | nil => rfl
  | cons pattern rest inductionHypothesis =>
    rw [patternViolations, patternMatches_eq, inductionHypothesis, List.findSome?_cons]
    cases refusal? platform pattern with
    | some fault => rfl
    | none =>
      dsimp only
      cases rest.findSome? (refusal? platform) with
      | some fault => rfl
      | none =>
        rw [List.filter_cons]
        by_cases catches : Catches platform text pattern
        · simp only [catches, decide_true, if_true, List.map_cons]
          rfl
        · simp only [catches, decide_false, Bool.false_eq_true, if_false]
          rfl

/-- Nothing is wrong with usable patterns. -/
theorem findSome?_refusal?_usable (patterns : List String) :
    (patterns.filter fun pattern => decide (IsUsable platform pattern)).findSome?
      (refusal? platform) = none := by
  rw [List.findSome?_eq_none_iff]
  intro pattern member
  exact refusal?_of_isUsable (of_decide_eq_true (List.mem_filter.mp member).2)

/-- Among usable patterns the same ones catch a text. -/
theorem filter_catches_usable (text : String) (patterns : List String) :
    ((patterns.filter fun pattern => decide (IsUsable platform pattern)).filter fun pattern =>
      decide (Catches platform text pattern)) =
        patterns.filter fun pattern => decide (Catches platform text pattern) := by
  rw [List.filter_filter]
  refine List.filter_congr fun pattern _ => ?_
  rw [Bool.and_eq_left_iff_imp]
  intro catches
  exact decide_eq_true (of_decide_eq_true catches).isUsable

end Lint

/-- The rules without the patterns that are refused. -/
def Rules.usable (platform : Pattern.Platform) (rules : Rules) : Rules :=
  { rules with
    titleRegexes := rules.titleRegexes.filter fun pattern => decide (Lint.IsUsable platform pattern)
    bodyRegexes := rules.bodyRegexes.filter fun pattern => decide (Lint.IsUsable platform pattern) }

namespace Lint

variable (platform : Pattern.Platform)

/-- Usable patterns tell their violations. -/
theorem patternViolations_usable (part text : String) (patterns : List String) :
    patternViolations platform part text
        (patterns.filter fun pattern => decide (IsUsable platform pattern)) =
      .ok ((patterns.filter fun pattern => decide (Catches platform text pattern)).map
        (patternMessage part)) := by
  rw [patternViolations_eq_match, findSome?_refusal?_usable, filter_catches_usable]

variable (rules : Rules) (post : Post)

/-- The violations of usable patterns can be told. -/
theorem exists_violations_usable :
    ∃ found, violations platform (rules.usable platform) post = .ok found := by
  simp only [violations, Rules.usable, patternViolations_usable]
  exact ⟨_, rfl⟩

/-- The violations are those of the rules without the patterns that are refused, up to the first
refusal that is not excused. -/
theorem violations_eq_usable : violations platform rules post =
    match (rules.titleRegexes ++ rules.bodyRegexes).findSome? (refusal? platform) with
    | some fault => .error fault
    | none => violations platform (rules.usable platform) post := by
  simp only [violations, Rules.usable, patternViolations_usable, List.findSome?_append]
  rw [patternViolations_eq_match platform "Title", patternViolations_eq_match platform "Body"]
  cases rules.titleRegexes.findSome? (refusal? platform) with
  | some fault => rfl
  | none =>
    cases rules.bodyRegexes.findSome? (refusal? platform) with
    | some fault => rfl
    | none => rfl

/-- A check gives the verdict of the rules without the patterns that are refused, up to the first
refusal that is not excused. -/
theorem evaluate_eq_usable : evaluate platform rules post =
    match (rules.titleRegexes ++ rules.bodyRegexes).findSome? (refusal? platform) with
    | some fault => .error fault
    | none => evaluate platform (rules.usable platform) post := by
  rw [evaluate, violations_eq_usable]
  cases (rules.titleRegexes ++ rules.bodyRegexes).findSome? (refusal? platform) with
  | some fault => rfl
  | none => rfl

/-- Rules that state no numbers leave none to be told. -/
theorem tellable_of_unset (noTitle : rules.maxTitleLength = none) (noBody : rules.maxBodyLength = none)
    (noFlags : rules.manualFlags = {}) : Tellable rules post where
  title most stated := by
    rw [noTitle] at stated
    cases stated
  body most stated := by
    rw [noBody] at stated
    cases stated
  karma least stated := by
    rw [noFlags] at stated
    cases stated
  age days stated := by
    rw [noFlags] at stated
    cases stated

/-- Where the numbers can be told there is a verdict without the patterns that are refused. The check
with them gives the same verdict exactly when all refusals are excused, as they are for modest
patterns with room for their groups, and otherwise breaks off at the first that is not. -/
theorem refused_patterns_are_skipped_iff (tellable : Tellable rules post) :
    ∃ result, evaluate platform (rules.usable platform) post = .ok result ∧
      (evaluate platform rules post = .ok result ↔
        ∀ pattern ∈ rules.titleRegexes ++ rules.bodyRegexes, refusal? platform pattern = none) ∧
      (∀ fault, evaluate platform rules post = .error fault ↔
        (rules.titleRegexes ++ rules.bodyRegexes).findSome? (refusal? platform) = some fault) ∧
      ((∀ pattern ∈ rules.titleRegexes ++ rules.bodyRegexes,
          Pattern.IsModest pattern.toList ∧
            2 * pattern.toList.count '(' ≤ platform.room pattern) →
        evaluate platform rules post = .ok result) := by
  obtain ⟨found, told⟩ := exists_violations_usable platform rules post
  obtain ⟨noted, written⟩ := (exists_warnings_iff rules post).mpr tellable
  have given := (evaluate_eq_ok_iff (rules.usable platform) post _).mpr
    ⟨found, noted, told, written, rfl⟩
  have skips : evaluate platform rules post = .ok ⟨stateOf found noted, found, noted,
      guidelineNotes (rules.usable platform)⟩ ↔
        ∀ pattern ∈ rules.titleRegexes ++ rules.bodyRegexes, refusal? platform pattern = none := by
    rw [← List.findSome?_eq_none_iff, evaluate_eq_usable, given]
    cases (rules.titleRegexes ++ rules.bodyRegexes).findSome? (refusal? platform) with
    | none => simp only
    | some fault => simp only [reduceCtorEq]
  refine ⟨_, given, skips, ?_, ?_⟩
  · intro fault
    rw [evaluate_eq_usable, given]
    cases (rules.titleRegexes ++ rules.bodyRegexes).findSome? (refusal? platform) with
    | none => simp only [reduceCtorEq]
    | some other => simp only [Except.error.injEq, Option.some.injEq]
  · intro modest
    refine skips.mpr fun pattern member => ?_
    obtain ⟨isModest, fits⟩ := modest pattern member
    exact refusal?_of_isModest isModest fits

/-- Rules with a pattern that is not closed. -/
def unclosedRules : Rules where
  bodyRegexes := ["([unclosed", "spam"]

/-- A pattern that is not closed is skipped, and the one after it is told. -/
theorem unclosed_pattern_is_skipped :
    let post : Post := ⟨"Title", "this is spam", false⟩
    Tellable unclosedRules post ∧
      evaluate .common (unclosedRules.usable .common) post =
        .ok ⟨.blocked, ["Body matches prohibited pattern /spam/"], [], []⟩ ∧
      evaluate .common unclosedRules post =
        evaluate .common (unclosedRules.usable .common) post := by
  intro post
  have tellable := tellable_of_unset unclosedRules post rfl rfl rfl
  obtain ⟨result, given, -, -, same⟩ :=
    refused_patterns_are_skipped_iff .common unclosedRules post tellable
  have shown : (evaluate .common (unclosedRules.usable .common) post).toOption =
      some ⟨.blocked, ["Body matches prohibited pattern /spam/"], [], []⟩ := by decide +kernel
  refine ⟨tellable, eq_ok_of_toOption _ _ shown, ?_⟩
  rw [given]
  apply same
  simp only [unclosedRules, List.nil_append, List.forall_mem_cons]
  have unclosed : Pattern.IsModest "([unclosed".toList :=
    Pattern.isModest_of_few_digits (by decide +kernel) (by decide +kernel)
  have plain : Pattern.IsModest "spam".toList :=
    Pattern.isModest_of_few_digits (by decide +kernel) (by decide +kernel)
  exact ⟨⟨unclosed, by decide +kernel⟩, ⟨plain, by decide +kernel⟩, List.forall_mem_nil _⟩

/-- A count that cannot be held breaks off the check, although the pattern with it cannot be used
either. -/
theorem boundless_count_breaks_off :
    let rules : Rules := { bodyRegexes := ["([unclosed", "a\x7b4294967295\x7d", "spam"] }
    let post : Post := ⟨"Title", "this is spam", false⟩
    evaluate .common (rules.usable .common) post =
        .ok ⟨.blocked, ["Body matches prohibited pattern /spam/"], [], []⟩ ∧
      evaluate .common rules post = .error .outOfRange := by
  intro rules post
  have shown : (evaluate .common (rules.usable .common) post).toOption =
      some ⟨.blocked, ["Body matches prohibited pattern /spam/"], [], []⟩ := by decide +kernel
  refine ⟨eq_ok_of_toOption _ _ shown, ?_⟩
  rw [evaluate_eq_usable]
  have refused : (rules.titleRegexes ++ rules.bodyRegexes).findSome? (refusal? .common) =
      some .outOfRange := by decide +kernel
  rw [refused]

end Lint

end Rulebook
