import Rulebook.Proofs.Warnings
import Rulebook.Rules.Overview

/-!
# Limits that are shown and limits that are enforced

A poster reads the limits in the overview, and a check enforces those of the rules. What makes an
account eligible is the same in both: a minimum that is not stated shows as zero, and a minimum of
zero warns nobody.

For lengths zero is a limit like any other to the check, which every post passes that is not empty.
The overview takes a stated zero for no limit and shows the default. So a limit of zero, and only
that, is shown otherwise than it is enforced.
-/

namespace Rulebook

namespace Lint

/-- A length is warned of exactly when it passes a stated maximum. -/
theorem lengthWarnings_ne_nil_iff (part text : String) (most : Option Int) (told : List String)
    (given : lengthWarnings part text most = .ok told) :
    told ≠ [] ↔ ∃ limit, most = some limit ∧ limit < (text.length : Int) := by
  cases most with
  | none =>
    obtain rfl := Except.ok.inj given
    refine ⟨fun some => absurd rfl some, ?_⟩
    rintro ⟨limit, stated, -⟩
    cases stated
  | some limit =>
    simp only [lengthWarnings] at given
    simp only [Option.some.injEq, exists_eq_left']
    split at given
    · next passed =>
      obtain ⟨_, -, same⟩ := (bind_eq_ok_iff _ _ _).mp given
      obtain rfl := Except.ok.inj same
      exact ⟨fun _ => passed, fun _ => List.cons_ne_nil _ _⟩
    · next kept =>
      obtain rfl := Except.ok.inj given
      exact ⟨fun some => absurd rfl some, fun passed => absurd passed kept⟩

/-- A minimum of karma is warned of unless it is none or zero. -/
theorem karmaWarnings_ne_nil_iff (flags : ManualFlags) (told : List String)
    (given : karmaWarnings flags = .ok told) : told ≠ [] ↔ flags.minKarma.getD 0 ≠ 0 := by
  unfold karmaWarnings at given
  cases stated : flags.minKarma with
  | none =>
    rw [stated] at given
    obtain rfl := Except.ok.inj given
    exact ⟨fun some => absurd rfl some, fun some => absurd rfl some⟩
  | some least =>
    rw [stated] at given
    simp only [Option.getD_some]
    by_cases zero : least = 0
    · subst zero
      obtain rfl := Except.ok.inj given
      exact ⟨fun some => absurd rfl some, fun some => absurd rfl some⟩
    · simp only [beq_iff_eq, zero, if_false] at given
      obtain ⟨_, -, same⟩ := (bind_eq_ok_iff _ _ _).mp given
      obtain rfl := Except.ok.inj same
      exact ⟨fun _ => zero, fun _ => List.cons_ne_nil _ _⟩

/-- A minimum age is warned of unless it is none or zero. -/
theorem ageWarnings_ne_nil_iff (flags : ManualFlags) (told : List String)
    (given : ageWarnings flags = .ok told) : told ≠ [] ↔ flags.minAccountAgeDays.getD 0 ≠ 0 := by
  unfold ageWarnings at given
  cases stated : flags.minAccountAgeDays with
  | none =>
    rw [stated] at given
    obtain rfl := Except.ok.inj given
    exact ⟨fun some => absurd rfl some, fun some => absurd rfl some⟩
  | some days =>
    rw [stated] at given
    simp only [Option.getD_some]
    by_cases zero : days = 0
    · subst zero
      obtain rfl := Except.ok.inj given
      exact ⟨fun some => absurd rfl some, fun some => absurd rfl some⟩
    · simp only [beq_iff_eq, zero, if_false] at given
      -- Months or days: there is one warning in either case.
      split at given
      all_goals
        obtain ⟨_, -, same⟩ := (bind_eq_ok_iff _ _ _).mp given
        obtain rfl := Except.ok.inj same
        exact ⟨fun _ => zero, fun _ => List.cons_ne_nil _ _⟩

/-- Verification is warned of exactly when it is required. -/
theorem verificationWarnings_ne_nil_iff (flags : ManualFlags) :
    verificationWarnings flags ≠ [] ↔ flags.verificationRequired = true := by
  unfold verificationWarnings
  split
  · next required => exact ⟨fun _ => required, fun _ => List.cons_ne_nil _ _⟩
  · next free => exact ⟨fun some => absurd rfl some, fun required => absurd required free⟩

/-- A verdict warns of the length of a part exactly when the part is longer than what is shown. -/
def Shows (shown : Int) (topic : Topic) (text : String) (result : LintResult) : Prop :=
  WarnsOf topic result ↔ shown < (text.length : Int)

instance (shown : Int) (topic : Topic) (text : String) (result : LintResult) :
    Decidable (Shows shown topic text result) :=
  inferInstanceAs (Decidable (_ ↔ _))

/-- A text is longer than nothing when it is not empty. -/
theorem length_pos_iff (text : String) : (0 : Int) < text.length ↔ text ≠ "" := by
  rw [Int.natCast_pos, Nat.pos_iff_ne_zero, Ne, Ne, ← String.length_toList, List.length_eq_zero_iff,
    String.toList_eq_nil_iff]

/-- The limit shown for a part that is checked agrees with the check unless it is a stated zero,
and then where neither limit or both are passed. -/
theorem shows_iff (topic : Topic) (text : String) (result : LintResult) (most default : Int)
    (positive : 0 < default) (enforced : WarnsOf topic result ↔ most < (text.length : Int)) :
    Shows (shownLength (some most) default) topic text result ↔
      most ≠ 0 ∨ text = "" ∨ default < (text.length : Int) := by
  unfold Shows
  rw [enforced]
  by_cases zero : most = 0
  · subst zero
    have shown : shownLength (some 0) default = default := rfl
    have empty : text = "" ↔ ¬ (0 : Int) < text.length := by rw [length_pos_iff, Ne, Decidable.not_not]
    rw [shown, empty]
    simp only [Ne, not_true_eq_false, false_or]
    omega
  · have shown : shownLength (some most) default = most := by
      simp only [shownLength, beq_iff_eq, zero, if_false]
    rw [shown]
    simp only [Ne, zero, not_false_eq_true, true_or]

end Lint

open Lint

/-- The overview shows the limits that a check enforces, but for a stated maximum length of zero:
that shows as the default, and a post that is not empty and no longer than this is warned all the
same. -/
theorem RuleSpec.overview_shows_limits {platform : Pattern.Platform} (spec : RuleSpec) (post : Post)
    (result : LintResult) (given : evaluate platform spec.rules post = .ok result) :
    (∀ most, spec.rules.maxTitleLength = some most →
      (Shows spec.overview.maxTitleLength .title post.title result ↔
        most ≠ 0 ∨ post.title = "" ∨ defaultTitleLength < (post.title.length : Int))) ∧
    (∀ most, spec.rules.maxBodyLength = some most →
      (Shows spec.overview.maxBodyLength .body post.body result ↔
        most ≠ 0 ∨ post.body = "" ∨ defaultBodyLength < (post.body.length : Int))) ∧
    (WarnsOf .karma result ↔ spec.overview.minKarma ≠ 0) ∧
    (WarnsOf .age result ↔ spec.overview.minAccountAgeDays ≠ 0) ∧
    (WarnsOf .verification result ↔ spec.overview.verificationRequired = true) := by
  have parts (topic : Topic) : ∃ told, check spec.rules post topic = .ok told ∧
      (WarnsOf topic result ↔ told ≠ []) := by
    obtain ⟨told, checked⟩ := exists_check spec.rules post topic result given
    exact ⟨told, checked, warnsOf_iff spec.rules post topic result given told checked⟩
  refine ⟨?title, ?body, ?karma, ?age, ?verification⟩
  case title =>
    intro most stated
    obtain ⟨told, checked, warned⟩ := parts .title
    have passed := lengthWarnings_ne_nil_iff _ _ _ told checked
    simp only [stated, Option.some.injEq, exists_eq_left'] at passed
    have shown : spec.overview.maxTitleLength = shownLength (some most) defaultTitleLength := by
      rw [← stated]
      rfl
    rw [shown]
    exact shows_iff .title post.title result most _ (by decide) (warned.trans passed)
  case body =>
    intro most stated
    obtain ⟨told, checked, warned⟩ := parts .body
    have passed := lengthWarnings_ne_nil_iff _ _ _ told checked
    simp only [stated, Option.some.injEq, exists_eq_left'] at passed
    have shown : spec.overview.maxBodyLength = shownLength (some most) defaultBodyLength := by
      rw [← stated]
      rfl
    rw [shown]
    exact shows_iff .body post.body result most _ (by decide) (warned.trans passed)
  case karma =>
    obtain ⟨told, checked, warned⟩ := parts .karma
    exact warned.trans (karmaWarnings_ne_nil_iff _ told checked)
  case age =>
    obtain ⟨told, checked, warned⟩ := parts .age
    exact warned.trans (ageWarnings_ne_nil_iff _ told checked)
  case verification =>
    obtain ⟨told, checked, warned⟩ := parts .verification
    obtain rfl := Except.ok.inj checked
    exact warned.trans (verificationWarnings_ne_nil_iff _)

/-- Rules with limits of every kind. -/
def limitedSpec : RuleSpec where
  rules :=
    { maxTitleLength := some 3
      maxBodyLength := some 0
      manualFlags := { minKarma := some 50, minAccountAgeDays := some 0, verificationRequired := true } }

/-- A post under limits of every kind: its title passes the limit that is shown, and its body one
that is not. -/
theorem RuleSpec.overview_shows_limits_limited :
    let post : Post := ⟨"Cats", "purr", false⟩
    let result : LintResult := ⟨.warn, [], ["Title too long: 4 characters (maximum 3)",
      "Body too long: 4 characters (maximum 0)", "This community requires 50+ karma",
      "This community requires verification before posting"], []⟩
    evaluate .common limitedSpec.rules post = .ok result ∧
    (∀ most, limitedSpec.rules.maxTitleLength = some most →
      (Shows limitedSpec.overview.maxTitleLength .title post.title result ↔
        most ≠ 0 ∨ post.title = "" ∨ defaultTitleLength < (post.title.length : Int))) ∧
    (∀ most, limitedSpec.rules.maxBodyLength = some most →
      (Shows limitedSpec.overview.maxBodyLength .body post.body result ↔
        most ≠ 0 ∨ post.body = "" ∨ defaultBodyLength < (post.body.length : Int))) ∧
    (WarnsOf .karma result ↔ limitedSpec.overview.minKarma ≠ 0) ∧
    (WarnsOf .age result ↔ limitedSpec.overview.minAccountAgeDays ≠ 0) ∧
    (WarnsOf .verification result ↔ limitedSpec.overview.verificationRequired = true) := by
  intro post result
  have shown : (evaluate .common limitedSpec.rules post).toOption = some result := by decide +kernel
  have given := eq_ok_of_toOption _ _ shown
  exact ⟨given, limitedSpec.overview_shows_limits post result given⟩

/-- Rules that allow no title at all. -/
def untitledSpec : RuleSpec where
  rules := { maxTitleLength := some 0 }

/-- The overview shows another limit than the check enforces: a title of one letter is too long,
and shorter than the limit shown. -/
theorem RuleSpec.zero_limit_shows_default :
    ¬ ∀ (spec : RuleSpec) (post : Post) (result : LintResult),
      evaluate .common spec.rules post = .ok result →
      (∀ most, spec.rules.maxTitleLength = some most →
        Shows spec.overview.maxTitleLength .title post.title result) ∧
      (∀ most, spec.rules.maxBodyLength = some most →
        Shows spec.overview.maxBodyLength .body post.body result) ∧
      (WarnsOf .karma result ↔ spec.overview.minKarma ≠ 0) ∧
      (WarnsOf .age result ↔ spec.overview.minAccountAgeDays ≠ 0) ∧
      (WarnsOf .verification result ↔ spec.overview.verificationRequired = true) := by
  intro law
  have shown : (evaluate .common untitledSpec.rules ⟨"T", "", false⟩).toOption =
      some ⟨.warn, [], ["Title too long: 1 characters (maximum 0)"], []⟩ := by decide +kernel
  obtain ⟨title, -⟩ := law untitledSpec ⟨"T", "", false⟩ _ (eq_ok_of_toOption _ _ shown)
  exact absurd (title 0 rfl) (by decide +kernel)

end Rulebook
