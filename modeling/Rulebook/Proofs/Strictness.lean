import Rulebook.Lint.Verdict

/-!
# Strictness of link policies

A check is decided by its most severe finding, so the verdict under a link policy is the
greater of two severities: that of all other checks and that of the policy alone. A
stricter policy is then at least as severe wherever it is so on its own.

The order of strictness is broken in one place. The policy without links goes by the flag of
the post, and the policy of a single link by the tokens in its body. A post that denies the
links in its body passes the stricter of the two and not the milder one.
-/

namespace Rulebook.Lint

/-- The severity that a link policy gives a post when no other check finds anything. -/
def policySeverity (policy : LinkPolicy) (post : Post) : Nat :=
  match policy with
  | .noLink => if post.hasLink then PolicyState.blocked.severity else PolicyState.ok.severity
  | .oneLink =>
    if 1 < countLinks post.body then PolicyState.blocked.severity
    else if countLinks post.body = 1 then PolicyState.warn.severity
    else PolicyState.ok.severity
  | _ => PolicyState.ok.severity

/-- One outcome is no more severe than another: both are verdicts in that order, or both
checks break off with the same fault. -/
def NoMoreSevere : Except Fault LintResult → Except Fault LintResult → Prop
  | .ok mild, .ok severe => mild.state.severity ≤ severe.state.severity
  | .error first, .error second => first = second
  | _, _ => False

instance (first second : Except Fault LintResult) : Decidable (NoMoreSevere first second) :=
  match first, second with
  | .ok mild, .ok severe => inferInstanceAs (Decidable (mild.state.severity ≤ severe.state.severity))
  | .error first, .error second => inferInstanceAs (Decidable (first = second))
  | .ok _, .error _ => inferInstanceAs (Decidable False)
  | .error _, .ok _ => inferInstanceAs (Decidable False)

/-- Added findings raise a verdict to their own severity and never lower it. -/
theorem severity_stateOf_append (violations warnings added noted : List String) :
    (stateOf (violations ++ added) (noted ++ warnings)).severity =
      max (stateOf violations warnings).severity (stateOf added noted).severity := by
  cases violations <;> cases warnings <;> cases added <;> cases noted <;>
    simp [stateOf, PolicyState.severity]

/-- The findings of a policy amount to its severity. -/
theorem severity_stateOf_policy (rules : Rules) (post : Post) :
    (stateOf (linkViolations rules post) (linkWarnings rules post)).severity =
      policySeverity rules.linkPolicy post := by
  unfold linkViolations linkWarnings policySeverity
  cases rules.linkPolicy with
  | unknown => rfl
  | ok => rfl
  | oneLink =>
    by_cases many : 1 < countLinks post.body
    · simp [many, stateOf]
    · by_cases single : countLinks post.body = 1 <;> simp [many, single, stateOf]
  | noLink => cases flagged : post.hasLink <;> simp [stateOf]

/-- The policy adds its violations behind those of all other checks. -/
theorem violations_policy (platform : Pattern.Platform) (rules : Rules) (post : Post)
    (policy : LinkPolicy) :
    violations platform { rules with linkPolicy := policy } post =
      (violations platform { rules with linkPolicy := .unknown } post).map
        (· ++ linkViolations { rules with linkPolicy := policy } post) := by
  unfold violations
  cases patternViolations platform "Title" post.title rules.titleRegexes with
  | error fault => rfl
  | ok titles =>
    cases patternViolations platform "Body" post.body rules.bodyRegexes with
    | error fault => rfl
    | ok bodies =>
      simp [bind, Except.bind, pure, Except.pure, Except.map, linkViolations, banViolations]

/-- The policy adds its warning in front of those of all other checks. -/
theorem warnings_policy (rules : Rules) (post : Post) (policy : LinkPolicy) :
    warnings { rules with linkPolicy := policy } post =
      (warnings { rules with linkPolicy := .unknown } post).map
        (linkWarnings { rules with linkPolicy := policy } post ++ ·) := by
  unfold warnings
  simp only [bind, Except.bind, pure, Except.pure]
  cases lengthWarnings "Title" post.title rules.maxTitleLength with
  | error fault => rfl
  | ok title =>
    cases lengthWarnings "Body" post.body rules.maxBodyLength with
    | error fault => rfl
    | ok body =>
      cases karmaWarnings rules.manualFlags with
      | error fault => rfl
      | ok karma =>
        cases ageWarnings rules.manualFlags with
        | error fault => rfl
        | ok age => simp [Except.map, linkWarnings, tagWarnings, flairWarnings]

/-- A check breaks off under every policy or under none, and its verdict is the greater of
the other checks' severity and the policy's own. The policy that is not known stands for the
other checks alone, since it has no findings. -/
theorem evaluate_policy (platform : Pattern.Platform) (rules : Rules) (post : Post)
    (policy : LinkPolicy) :
    match evaluate platform { rules with linkPolicy := .unknown } post with
    | .error fault => evaluate platform { rules with linkPolicy := policy } post = .error fault
    | .ok others =>
      ∃ result, evaluate platform { rules with linkPolicy := policy } post = .ok result ∧
        result.state.severity = max others.state.severity (policySeverity policy post) := by
  unfold evaluate
  rw [violations_policy platform rules post policy, warnings_policy rules post policy]
  cases violations platform { rules with linkPolicy := .unknown } post with
  | error fault => rfl
  | ok violations =>
    cases warnings { rules with linkPolicy := .unknown } post with
    | error fault => rfl
    | ok warnings =>
      refine ⟨_, rfl, ?_⟩
      rw [severity_stateOf_append]
      exact congrArg _ (severity_stateOf_policy { rules with linkPolicy := policy } post)

/-- The order of strictness is that of the severities, but for a post that denies its links
under the two strictest policies. -/
theorem policySeverity_le_of_strictness (post : Post) (mild strict : LinkPolicy)
    (ordered : mild.strictness ≤ strict.strictness)
    (apart : ¬ (mild = .oneLink ∧ strict = .noLink ∧ post.hasLink = false)) :
    policySeverity mild post ≤ policySeverity strict post := by
  cases mild with
  | unknown => exact Nat.zero_le _
  | ok => exact Nat.zero_le _
  | oneLink =>
    cases strict with
    | unknown => simp [LinkPolicy.strictness] at ordered
    | ok => simp [LinkPolicy.strictness] at ordered
    | oneLink => exact Nat.le_refl _
    | noLink =>
      have flagged : post.hasLink = true := by simpa using apart
      simp only [policySeverity, flagged, if_true]
      split
      · exact Nat.le_refl _
      · split <;> decide
  | noLink =>
    cases strict with
    | noLink => exact Nat.le_refl _
    | _ => simp [LinkPolicy.strictness] at ordered

/-- The stricter of two policies gives a verdict that is at least as severe, and breaks off
where the other does. The only exception are posts whose flag denies the links that their
body has, where the policy without links finds nothing, the policy of a single link warns
of one link or blocks several, and all other checks together are milder than that. -/
theorem evaluate_mono_iff (platform : Pattern.Platform) (rules : Rules) (post : Post)
    (mild strict : LinkPolicy) (ordered : mild.strictness ≤ strict.strictness) :
    NoMoreSevere (evaluate platform { rules with linkPolicy := mild } post)
        (evaluate platform { rules with linkPolicy := strict } post) ↔
      ¬ (mild = .oneLink ∧ strict = .noLink ∧ post.hasLink = false ∧
        ∃ others, evaluate platform { rules with linkPolicy := .unknown } post = .ok others ∧
          others.state.severity < policySeverity .oneLink post) := by
  have mildOutcome := evaluate_policy platform rules post mild
  have strictOutcome := evaluate_policy platform rules post strict
  cases alone : evaluate platform { rules with linkPolicy := .unknown } post with
  | error fault =>
    rw [alone] at mildOutcome strictOutcome
    simp [mildOutcome, strictOutcome, NoMoreSevere]
  | ok others =>
    rw [alone] at mildOutcome strictOutcome
    obtain ⟨mildResult, mildRun, mildSeverity⟩ := mildOutcome
    obtain ⟨strictResult, strictRun, strictSeverity⟩ := strictOutcome
    rw [mildRun, strictRun]
    simp only [NoMoreSevere, mildSeverity, strictSeverity, Except.ok.injEq, exists_eq_left']
    by_cases denied : mild = .oneLink ∧ strict = .noLink ∧ post.hasLink = false
    · obtain ⟨rfl, rfl, unflagged⟩ := denied
      have silent : policySeverity .noLink post = 0 := by
        simp [policySeverity, unflagged, PolicyState.severity]
      simp only [silent, unflagged, true_and]
      omega
    · have smaller := policySeverity_le_of_strictness post mild strict ordered denied
      constructor
      · rintro - ⟨single, none, unflagged, -⟩
        exact denied ⟨single, none, unflagged⟩
      · intro
        omega

/-- A post that says so itself when it has a link is judged no more mildly by the policy
without links. -/
theorem admitted_link_blocked_by_stricter_policy :
    LinkPolicy.oneLink.strictness ≤ LinkPolicy.noLink.strictness ∧
      NoMoreSevere (evaluate .common { ({} : Rules) with linkPolicy := .oneLink } ⟨"", "a.co", true⟩)
        (evaluate .common { ({} : Rules) with linkPolicy := .noLink } ⟨"", "a.co", true⟩) := by
  refine ⟨by decide,
    (evaluate_mono_iff .common {} ⟨"", "a.co", true⟩ .oneLink .noLink (by decide)).mpr ?_⟩
  rintro ⟨-, -, denied, -⟩
  cases denied

/-- A post with one link in its body and a flag that denies it is warned about under the
policy of a single link and passes under the policy without links. -/
theorem denied_link_passes_stricter_policy :
    ¬ ∀ (rules : Rules) (post : Post) (mild strict : LinkPolicy),
      mild.strictness ≤ strict.strictness →
      NoMoreSevere (evaluate .common { rules with linkPolicy := mild } post)
        (evaluate .common { rules with linkPolicy := strict } post) := by
  intro monotone
  have compared := monotone {} ⟨"", "a.co", false⟩ .oneLink .noLink (by decide)
  exact absurd compared (by decide +kernel)

end Rulebook.Lint
