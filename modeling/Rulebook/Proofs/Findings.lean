import Rulebook.Proofs.Lowering
import Rulebook.Proofs.Store
import Rulebook.Proofs.Verdicts

/-!
# What a check finds

A check gives its verdict when all that it finds can be told: its violations, its warnings, and in
them the numbers of the rules. Without patterns only the numbers can stand in the way.

A violation names what it is about, and so does the warning of a missing tag. So these can be
looked for among the findings, and they are there exactly when the part of the check that gives
them has found something.
-/

namespace Rulebook.Lint

variable {platform : Pattern.Platform} (rules : Rules) (post : Post)

/-- A check gives a verdict exactly when its violations and its warnings can be told. -/
theorem evaluate_eq_ok_iff (result : LintResult) :
    evaluate platform rules post = .ok result ↔ ∃ found noted,
      violations platform rules post = .ok found ∧ warnings rules post = .ok noted ∧
      result = ⟨stateOf found noted, found, noted, guidelineNotes rules⟩ := by
  simp only [evaluate, bind_eq_ok_iff]
  constructor
  · rintro ⟨found, told, noted, written, same⟩
    exact ⟨found, noted, told, written, (Except.ok.inj same).symm⟩
  · rintro ⟨found, noted, told, written, rfl⟩
    exact ⟨found, told, noted, written, rfl⟩

/-- The violation that names a banned word. -/
def banMessage (banned : String) : String := "Contains banned term \"" ++ banned ++ "\""

/-- Different words are named differently. -/
theorem banMessage_injective (first second : String) (same : banMessage first = banMessage second) :
    first = second := by
  unfold banMessage at same
  have named := (String.append_left_inj _).mp same
  exact (String.append_right_inj _).mp named

/-- A word is named among the violations of bans when it is banned and the post breaks the ban. -/
theorem mem_banViolations_iff (banned : String) :
    banMessage banned ∈ banViolations rules post ↔
      banned ∈ rules.bannedWords ∧ breaksBan post banned = true := by
  have mapped : banViolations rules post =
      (rules.bannedWords.filter (breaksBan post)).map banMessage := rfl
  rw [mapped, List.mem_map]
  constructor
  · rintro ⟨other, member, same⟩
    obtain rfl := banMessage_injective other banned same
    exact List.mem_filter.mp member
  · intro breaks
    exact ⟨banned, List.mem_filter.mpr breaks, rfl⟩

/-- A post breaks a ban when the word stands in its title or its body once all is lowered. -/
theorem breaksBan_iff (banned : String) :
    breaksBan post banned = true ↔ banned ≠ "" ∧
      (Text.lower banned.toList <:+: Text.lower post.title.toList ∨
        Text.lower banned.toList <:+: Text.lower post.body.toList) := by
  have blank : (Text.lower banned.toList).isEmpty = true ↔ banned = "" := by
    rw [List.isEmpty_iff, Text.lower_eq_nil_iff, String.toList_eq_nil_iff]
  simp only [breaksBan, Bool.and_eq_true, Bool.not_eq_true', Bool.or_eq_true,
    Text.occurs_eq_true_iff, Bool.eq_false_iff, Ne, blank]

/-- A text begins as its front does. -/
theorem head?_append (front rest : String) (first : Char)
    (begins : front.toList.head? = some first) : (front ++ rest).toList.head? = some first := by
  rw [String.toList_append, List.head?_append, begins]
  rfl

/-- No violation of the link policy names a banned word. -/
theorem banMessage_notMem_linkViolations (banned : String) :
    banMessage banned ∉ linkViolations rules post := by
  have bans : (banMessage banned).toList.head? = some 'C' := by
    apply head?_append
    apply head?_append
    decide
  have links : ∀ told ∈ linkViolations rules post, told.toList.head? = some 'L' := by
    intro told member
    unfold linkViolations at member
    split at member
    · split at member
      · obtain rfl := List.mem_singleton.mp member
        decide
      · cases member
    · dsimp only at member
      split at member
      · obtain rfl := List.mem_singleton.mp member
        apply head?_append
        apply head?_append
        decide
      · cases member
    · cases member
  intro member
  have same := links _ member
  rw [bans] at same
  exact absurd same (by decide)

/-- Without patterns all violations can be told. -/
theorem violations_of_no_patterns (noTitles : rules.titleRegexes = [])
    (noBodies : rules.bodyRegexes = []) :
    violations platform rules post = .ok (banViolations rules post ++ linkViolations rules post) := by
  unfold violations
  rw [noTitles, noBodies]
  simp only [patternViolations, bind, Except.bind, pure, Except.pure, List.append_nil]

/-- The violations of bans are among all violations. -/
theorem mem_of_mem_banViolations (result : LintResult)
    (given : evaluate platform rules post = .ok result) (told : String)
    (member : told ∈ banViolations rules post) : told ∈ result.violations := by
  obtain ⟨found, noted, listed, -, rfl⟩ := (evaluate_eq_ok_iff rules post result).mp given
  simp only [violations, bind_eq_ok_iff] at listed
  obtain ⟨titles, -, bodies, -, same⟩ := listed
  obtain rfl := Except.ok.inj same
  exact List.mem_append_left _ (List.mem_append_left _ (List.mem_append_left _ member))

/-- A violation blocks the post. -/
theorem state_of_mem_violations (result : LintResult)
    (given : evaluate platform rules post = .ok result) (told : String)
    (member : told ∈ result.violations) : result.state = .blocked := by
  obtain ⟨found, noted, -, -, rfl⟩ := (evaluate_eq_ok_iff rules post result).mp given
  have some : found.isEmpty = false := by
    rw [Bool.eq_false_iff, Ne, List.isEmpty_iff]
    exact List.ne_nil_of_mem member
  simp only [stateOf, some, Bool.not_false, if_true]

/-- The numbers of the rules that a check of the post writes into its messages can be written. -/
structure Tellable : Prop where
  title : ∀ most, rules.maxTitleLength = some most → most < (post.title.length : Int) →
    Decimal.isShort most = true
  body : ∀ most, rules.maxBodyLength = some most → most < (post.body.length : Int) →
    Decimal.isShort most = true
  karma : ∀ least, rules.manualFlags.minKarma = some least → Decimal.isShort least = true
  age : ∀ days, rules.manualFlags.minAccountAgeDays = some days →
    Decimal.isShort days = true ∧ days < (ageCeiling : Int)

/-- A number can be written into a message exactly when it is within the digit limit. -/
theorem exists_numberText_iff (n : Int) :
    (∃ text, numberText n = .ok text) ↔ Decimal.isShort n = true := by
  unfold numberText
  split
  · next short => exact ⟨fun _ => short, fun _ => ⟨_, rfl⟩⟩
  · next long =>
    constructor
    · rintro ⟨_, written⟩
      cases written
    · intro short
      exact absurd short long

/-- A message with a number in it can be told exactly when the number can be written. -/
theorem exists_message_iff (n : Int) (message : String → List String) :
    (∃ told, (numberText n >>= fun text => (.ok (message text) : Except Fault (List String))) =
      .ok told) ↔ Decimal.isShort n = true := by
  rw [← exists_numberText_iff]
  constructor
  · rintro ⟨told, written⟩
    obtain ⟨text, here, -⟩ := (bind_eq_ok_iff _ _ _).mp written
    exact ⟨text, here⟩
  · rintro ⟨text, written⟩
    exact ⟨message text, (bind_eq_ok_iff _ _ _).mpr ⟨text, written, rfl⟩⟩

/-- A length can be compared with its maximum exactly when a maximum that is passed can be
written. -/
theorem exists_lengthWarnings_iff (part text : String) (most : Option Int) :
    (∃ told, lengthWarnings part text most = .ok told) ↔
      ∀ limit, most = some limit → limit < (text.length : Int) → Decimal.isShort limit = true := by
  cases most with
  | none =>
    refine ⟨?_, fun _ => ⟨[], rfl⟩⟩
    intro _ _ stated
    cases stated
  | some limit =>
    unfold lengthWarnings
    by_cases passed : limit < (text.length : Int)
    · simp only [if_pos passed]
      refine (exists_message_iff limit _).trans ⟨?_, fun short => short limit rfl passed⟩
      rintro short other stated -
      obtain rfl := Option.some.inj stated
      exact short
    · simp only [if_neg passed]
      refine ⟨?_, fun _ => ⟨[], rfl⟩⟩
      intro _ other stated above
      obtain rfl := Option.some.inj stated
      exact absurd above passed

/-- A minimum of karma can be told exactly when it can be written. -/
theorem exists_karmaWarnings_iff (flags : ManualFlags) :
    (∃ told, karmaWarnings flags = .ok told) ↔
      ∀ least, flags.minKarma = some least → Decimal.isShort least = true := by
  unfold karmaWarnings
  cases flags.minKarma with
  | none =>
    refine ⟨?_, fun _ => ⟨[], rfl⟩⟩
    intro _ _ stated
    cases stated
  | some least =>
    simp only [Option.some.injEq, forall_eq']
    by_cases none : least = 0
    · subst none
      exact ⟨fun _ => isShort_of_small 0 (by decide), fun _ => ⟨[], rfl⟩⟩
    · simp only [beq_iff_eq, none, if_false]
      exact exists_message_iff least _

/-- A minimum age can be told exactly when it can be written and is below the ceiling. -/
theorem exists_ageWarnings_iff (flags : ManualFlags) :
    (∃ told, ageWarnings flags = .ok told) ↔
      ∀ days, flags.minAccountAgeDays = some days →
        Decimal.isShort days = true ∧ days < (ageCeiling : Int) := by
  have wide : 30 < ageCeiling ∧ ageCeiling ≤ Decimal.tenTo Decimal.digitLimit := by decide +kernel
  obtain ⟨several, writable⟩ := wide
  cases stated : flags.minAccountAgeDays with
  | none =>
    constructor
    · intro _ _ found
      cases found
    · intro _
      refine ⟨[], ?_⟩
      unfold ageWarnings
      rw [stated]
  | some days =>
    simp only [Option.some.injEq, forall_eq']
    by_cases months : 30 ≤ days
    · obtain ⟨count, rfl⟩ := Int.eq_ofNat_of_zero_le (Int.le_trans (by decide) months)
      rcases ageWarnings_cases flags count stated with ⟨below, told⟩ | ⟨beyond, overflow⟩
      · refine ⟨fun _ => ⟨?_, Int.ofNat_lt.mpr below⟩, fun _ => told⟩
        rw [Decimal.isShort, Int.natAbs_natCast, decide_eq_true_eq]
        omega
      · rw [overflow]
        constructor
        · rintro ⟨_, told⟩
          cases told
        · rintro ⟨-, below⟩
          exact absurd (Int.ofNat_lt.mp below) (Nat.not_lt_of_le beyond)
    · have below : days < (ageCeiling : Int) := by omega
      unfold ageWarnings
      rw [stated]
      simp only [if_neg months, below, and_true]
      by_cases none : days = 0
      · subst none
        exact ⟨fun _ => isShort_of_small 0 (by decide), fun _ => ⟨[], rfl⟩⟩
      · simp only [beq_iff_eq, none, if_false]
        exact exists_message_iff days _

/-- The warnings can be told exactly when the numbers can. -/
theorem exists_warnings_iff :
    (∃ noted, warnings rules post = .ok noted) ↔ Tellable rules post := by
  have title := exists_lengthWarnings_iff "Title" post.title rules.maxTitleLength
  have body := exists_lengthWarnings_iff "Body" post.body rules.maxBodyLength
  have karma := exists_karmaWarnings_iff rules.manualFlags
  have age := exists_ageWarnings_iff rules.manualFlags
  constructor
  · rintro ⟨noted, written⟩
    simp only [warnings, bind_eq_ok_iff] at written
    obtain ⟨_, titled, _, bodied, _, required, _, aged, -⟩ := written
    exact ⟨title.mp ⟨_, titled⟩, body.mp ⟨_, bodied⟩, karma.mp ⟨_, required⟩, age.mp ⟨_, aged⟩⟩
  · intro tellable
    obtain ⟨_, titled⟩ := title.mpr tellable.title
    obtain ⟨_, bodied⟩ := body.mpr tellable.body
    obtain ⟨_, required⟩ := karma.mpr tellable.karma
    obtain ⟨_, aged⟩ := age.mpr tellable.age
    simp only [warnings, titled, bodied, required, aged]
    exact ⟨_, rfl⟩

/-- Without patterns a check gives its verdict exactly when the numbers can be told. -/
theorem exists_evaluate_iff (noTitles : rules.titleRegexes = []) (noBodies : rules.bodyRegexes = []) :
    (∃ result, evaluate platform rules post = .ok result) ↔ Tellable rules post := by
  rw [← exists_warnings_iff]
  simp only [evaluate_eq_ok_iff, violations_of_no_patterns rules post noTitles noBodies]
  constructor
  · rintro ⟨result, found, noted, -, written, -⟩
    exact ⟨noted, written⟩
  · rintro ⟨noted, written⟩
    exact ⟨_, _, noted, rfl, written, rfl⟩

end Rulebook.Lint
