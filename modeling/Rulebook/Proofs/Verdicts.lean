import Rulebook.Lint.Verdict
import Rulebook.Proofs.Rounding
import Rulebook.Proofs.Storable
import Rulebook.Sync.One

/-!
# When compiled rules give a verdict

Compiled rules have no patterns, and their limits come from texts that the digit limit has
passed. So a check against them can break off in one place only: where the age of an account
is rendered in months. That is a division in floating point, and it overflows for ages that
double precision cannot hold.
-/

namespace Rulebook

open Extract (minAccountAgeDays?)

namespace Lint

/-- The smallest age, in days, that cannot be rendered in months. -/
def ageCeiling : Nat := 30 * Decimal.ceiling

/-- A number within the digit limit can be written into a message. -/
theorem numberText_of_isShort (n : Int) (short : Decimal.isShort n = true) :
    numberText n = .ok (toString n) := by
  rw [numberText, if_pos short]

/-- A length is compared with a maximum whose text can be written. -/
theorem exists_lengthWarnings (part text : String) (most : Option Int)
    (short : most.all Decimal.isShort = true) :
    ∃ warnings, lengthWarnings part text most = .ok warnings := by
  cases most with
  | none => exact ⟨[], rfl⟩
  | some limit =>
    rw [Option.all_some] at short
    simp only [lengthWarnings]
    split
    · rw [numberText_of_isShort limit short]
      exact ⟨_, rfl⟩
    · exact ⟨[], rfl⟩

/-- A minimum of karma whose text can be written gives its warning. -/
theorem exists_karmaWarnings (flags : ManualFlags)
    (short : flags.minKarma.all Decimal.isShort = true) :
    ∃ warnings, karmaWarnings flags = .ok warnings := by
  unfold karmaWarnings
  cases karma : flags.minKarma with
  | none => exact ⟨[], rfl⟩
  | some least =>
    rw [karma, Option.all_some] at short
    dsimp only
    split
    · exact ⟨[], rfl⟩
    · rw [numberText_of_isShort least short]
      exact ⟨_, rfl⟩

/-- A number of days is a number of months when it lies below the ceiling, and overflows
otherwise. -/
theorem monthsOf_cases (days : Nat) :
    (days < ageCeiling ∧ ∃ months, monthsOf days = .ok months) ∨
      (ageCeiling ≤ days ∧ monthsOf days = .error .outOfRange) := by
  have fits := Decimal.Binary.exists_nearest?_iff days 30 (by decide)
  unfold monthsOf ageCeiling
  cases rounded : Decimal.Binary.nearest? days 30 with
  | some months => exact Or.inl ⟨fits.mp ⟨months, rounded⟩, _, rfl⟩
  | none =>
    refine Or.inr ⟨Nat.le_of_not_lt fun below => ?_, rfl⟩
    obtain ⟨months, found⟩ := fits.mpr below
    rw [rounded] at found
    cases found

/-- An age gives its warning when it lies below the ceiling, and overflows otherwise. -/
theorem ageWarnings_cases (flags : ManualFlags) (days : Nat)
    (aged : flags.minAccountAgeDays = some (Int.ofNat days)) :
    (days < ageCeiling ∧ ∃ warnings, ageWarnings flags = .ok warnings) ∨
      (ageCeiling ≤ days ∧ ageWarnings flags = .error .outOfRange) := by
  have positive : 0 < Decimal.ceiling := Nat.lt_of_lt_of_le (Decimal.twoTo_pos _)
    Decimal.twoTo_le_ceiling
  unfold ageWarnings
  rw [aged]
  dsimp only
  by_cases whole : (30 : Int) ≤ Int.ofNat days
  · have some : ¬ (Int.ofNat days == 0) = true := by
      simp only [beq_iff_eq]
      omega
    rw [if_neg some, if_pos whole]
    rcases monthsOf_cases days with ⟨below, months, rendered⟩ | ⟨beyond, overflow⟩
    · exact Or.inl ⟨below, _, by rw [show (Int.ofNat days).toNat = days from rfl, rendered]; rfl⟩
    · exact Or.inr ⟨beyond, by rw [show (Int.ofNat days).toNat = days from rfl, overflow]; rfl⟩
  · have few : days < 30 := by
      have less := Int.lt_of_not_ge whole
      exact Int.ofNat_lt.mp less
    have below : days < ageCeiling := by
      unfold ageCeiling
      omega
    have short : Decimal.isShort (Int.ofNat days) = true := by
      have wide : 30 ≤ Decimal.tenTo Decimal.digitLimit := by decide +kernel
      simp only [Decimal.isShort, Int.ofNat_eq_natCast, Int.natAbs_natCast, decide_eq_true_eq]
      omega
    refine Or.inl ⟨below, ?_⟩
    rw [if_neg whole, numberText_of_isShort _ short]
    split
    · exact ⟨[], rfl⟩
    · exact ⟨_, rfl⟩

/-- Everything but the age of an account passes the check of compiled rules. -/
theorem evaluate_compile (platform : Pattern.Platform) (statements : List Statement)
    (wiki : String) (post : Post) :
    ∃ others : List String → LintResult,
      evaluate platform (Rules.compile statements wiki) post =
        (ageWarnings (ManualFlags.ofWiki wiki)).map others := by
  obtain ⟨title, titled⟩ := exists_lengthWarnings "Title" post.title
    (Rules.compile statements wiki).maxTitleLength (Rules.maxTitleLength_isShort statements wiki)
  obtain ⟨body, bodied⟩ := exists_lengthWarnings "Body" post.body
    (Rules.compile statements wiki).maxBodyLength (Rules.maxBodyLength_isShort statements wiki)
  obtain ⟨karma, required⟩ := exists_karmaWarnings (Rules.compile statements wiki).manualFlags
    (ManualFlags.minKarma_isShort wiki)
  have same : (Rules.compile statements wiki).manualFlags = ManualFlags.ofWiki wiki := rfl
  have titles : (Rules.compile statements wiki).titleRegexes = [] := rfl
  have bodies : (Rules.compile statements wiki).bodyRegexes = [] := rfl
  rw [same] at required
  generalize Rules.compile statements wiki = rules at *
  cases aged : ageWarnings (ManualFlags.ofWiki wiki) with
  | error fault =>
    refine ⟨fun _ => { state := .ok }, ?_⟩
    simp only [evaluate, violations, warnings, titles, bodies, patternViolations, titled, bodied,
      same, required, aged]
    rfl
  | ok age =>
    simp only [evaluate, violations, warnings, titles, bodies, patternViolations, titled, bodied,
      same, required, aged]
    exact ⟨fun _ => _, rfl⟩

/-- Compiled rules give a verdict on every post when the age of an account that the wiki states,
if any, lies below the ceiling, and on no post otherwise. -/
theorem evaluate_compile_cases (platform : Pattern.Platform) (statements : List Statement)
    (wiki : String) (post : Post) :
    ((∀ days, minAccountAgeDays? wiki = some days → days < ageCeiling) ∧
        ∃ result, evaluate platform (Rules.compile statements wiki) post = .ok result) ∨
      ((∃ days, minAccountAgeDays? wiki = some days ∧ ageCeiling ≤ days) ∧
        evaluate platform (Rules.compile statements wiki) post = .error .outOfRange) := by
  obtain ⟨others, same⟩ := evaluate_compile platform statements wiki post
  have stated : (ManualFlags.ofWiki wiki).minAccountAgeDays =
      (minAccountAgeDays? wiki).map Int.ofNat := by
    unfold ManualFlags.ofWiki
    split
    · next empty =>
      obtain rfl := beq_iff_eq.mp empty
      rfl
    · rfl
  cases age : minAccountAgeDays? wiki with
  | none =>
    rw [age] at stated
    have silent : ageWarnings (ManualFlags.ofWiki wiki) = .ok [] := by
      unfold ageWarnings
      rw [stated]
      rfl
    rw [silent] at same
    exact Or.inl ⟨fun days found => (nomatch found), _, same⟩
  | some days =>
    rw [age] at stated
    rcases ageWarnings_cases _ days stated with ⟨below, age, written⟩ | ⟨beyond, overflow⟩
    · rw [written] at same
      refine Or.inl ⟨fun other found => ?_, _, same⟩
      obtain rfl := Option.some.inj found
      exact below
    · rw [overflow] at same
      exact Or.inr ⟨⟨days, rfl, beyond⟩, same⟩

end Lint

namespace Gathered

open Lint (ageCeiling)

/-- Compiles what was gathered and checks a post against the result. -/
def check (platform : Pattern.Platform) (gathered : Gathered) (post : Lint.Post) :
    Except Fault LintResult := do
  let rules ← gathered.compile
  Lint.evaluate platform rules post

variable (platform : Pattern.Platform)

/-- What is gathered is checked in two stages, and the first only reads the rules. -/
theorem check_of_read (rules : List Json) (wiki : String) (post : Lint.Post)
    (statements : List Statement) (read : rules.mapM Statement.ofJson = .ok statements) :
    check platform ⟨rules, .str wiki⟩ post =
      Lint.evaluate platform (Rules.compile statements wiki) post := by
  show ((rules.mapM Statement.ofJson >>= fun statements => pure (Rules.compile statements wiki)) >>=
    fun rules => Lint.evaluate platform rules post) = _
  rw [read]
  rfl

/-- Published rules and a wiki page give a verdict on every post, with one exception: the wiki
states an age of an account that double precision cannot hold, and then every post makes the
check overflow. Any list of rules gives a verdict exactly when each of them can be read and the
age lies below the ceiling.

The words of the rules, their number and the other numbers of the wiki never matter. Patterns
are not compiled from pages, and every other number has passed the digit limit. -/
theorem check_gives_verdict (rules : List Json) (wiki : String) (post : Lint.Post) :
    ((∃ result, check platform ⟨rules, .str wiki⟩ post = .ok result) ↔
      (∀ rule ∈ rules, ∃ statement, Statement.ofJson rule = .ok statement) ∧
        ∀ days, minAccountAgeDays? wiki = some days → days < ageCeiling) ∧
    (ArePublished rules →
      ((∀ days, minAccountAgeDays? wiki = some days → days < ageCeiling) ∧
          ∃ result, check platform ⟨rules, .str wiki⟩ post = .ok result) ∨
        ((∃ days, minAccountAgeDays? wiki = some days ∧ ageCeiling ≤ days) ∧
          check platform ⟨rules, .str wiki⟩ post = .error .outOfRange)) := by
  refine ⟨?_, fun published => ?_⟩
  · rw [← exists_mapM_ofJson_iff]
    constructor
    · rintro ⟨result, given⟩
      cases read : rules.mapM Statement.ofJson with
      | error fault =>
        have broken : check platform ⟨rules, .str wiki⟩ post = .error fault := by
          simp only [check, compile, read]
          rfl
        rw [broken] at given
        cases given
      | ok statements =>
        rw [check_of_read platform rules wiki post statements read] at given
        refine ⟨⟨statements, rfl⟩, ?_⟩
        rcases Lint.evaluate_compile_cases platform statements wiki post with ⟨fits, -⟩ | ⟨-, overflow⟩
        · exact fits
        · rw [overflow] at given
          cases given
    · rintro ⟨⟨statements, read⟩, fits⟩
      rw [check_of_read platform rules wiki post statements read]
      rcases Lint.evaluate_compile_cases platform statements wiki post with ⟨-, given⟩ | ⟨stated, -⟩
      · exact given
      · obtain ⟨days, found, beyond⟩ := stated
        exact absurd (fits days found) (Nat.not_lt_of_le beyond)
  · obtain ⟨statements, read⟩ := exists_statements rules published
    rw [check_of_read platform rules wiki post statements read]
    exact Lint.evaluate_compile_cases platform statements wiki post

/-- A page of rules of one rule, and a wiki that asks for an account of two months. -/
def moderatePage : List Json :=
  [.obj [("short_name", .str "Titles"), ("description", .str "Title limit 300 characters")]]

/-- An age of two months leaves a post with a verdict. -/
theorem moderate_age_gives_verdict :
    ∃ result, check .common ⟨moderatePage, .str "account 60 days"⟩ ⟨"T", "", false⟩ =
      .ok result := by
  have age : minAccountAgeDays? "account 60 days" = some 60 := by decide +kernel
  have published : ArePublished moderatePage := by
    intro rule member
    obtain rfl := List.mem_singleton.mp member
    exact ⟨_, rfl, rfl⟩
  rcases (check_gives_verdict .common moderatePage "account 60 days" ⟨"T", "", false⟩).2 published
    with ⟨-, given⟩ | ⟨⟨days, found, beyond⟩, -⟩
  · exact given
  · rw [age] at found
    obtain rfl := Option.some.inj found
    exact absurd beyond (by decide +kernel)

/-- A wiki that asks for an account of more days than double precision can hold. -/
def boundlessWiki : String :=
  String.ofList ("account 3".toList ++ List.replicate 310 '0' ++ " days".toList)

/-- An age without bounds makes the check of an empty post overflow. -/
theorem boundless_age_overflows :
    check .common ⟨[], .str boundlessWiki⟩ ⟨"", "", false⟩ = .error .outOfRange := by
  have age : minAccountAgeDays? boundlessWiki = some (3 * Decimal.tenTo 310) := by decide +kernel
  have beyond : ageCeiling ≤ 3 * Decimal.tenTo 310 := by decide +kernel
  rw [check_of_read .common [] boundlessWiki _ [] rfl]
  rcases Lint.evaluate_compile_cases .common [] boundlessWiki ⟨"", "", false⟩ with
    ⟨fits, -⟩ | ⟨-, overflow⟩
  · exact absurd (fits _ age) (Nat.not_lt_of_le beyond)
  · exact overflow

end Gathered

end Rulebook
