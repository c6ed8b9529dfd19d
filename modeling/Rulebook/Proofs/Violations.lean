import Rulebook.Proofs.Findings

/-!
# Which violations a verdict lists

The violations of a verdict are those that the rules declare, and they stand in the order of the
rules: the banned words that the post mentions, the patterns that catch its title, those that catch
its body, and at most one word on its links. A word or a pattern that is listed twice is told twice.

A pattern that cannot be compiled is skipped, so it catches nothing. In which texts a compiled
pattern finds something is up to the matcher and not described here.
-/

namespace Rulebook.Lint

/-- A post mentions a word that has letters when they stand in its title or in its body, all of it
lowered. -/
def Post.Mentions (post : Post) (word : String) : Prop :=
  Text.lower word.toList ≠ [] ∧ (Text.lower word.toList <:+: Text.lower post.title.toList ∨
    Text.lower word.toList <:+: Text.lower post.body.toList)

instance (post : Post) (word : String) : Decidable (post.Mentions word) :=
  inferInstanceAs (Decidable (_ ∧ _))

variable (platform : Pattern.Platform)

/-- A pattern catches a text when it can be compiled and finds something in it. -/
def Catches (text pattern : String) : Prop :=
  ∃ compiled, Pattern.read platform pattern = .ok compiled ∧ compiled.matches? text.toList = true

/-- A pattern catches a text exactly when it is compiled to one that does. -/
theorem catches_iff_of_read (text pattern : String) (compiled : Pattern)
    (read : Pattern.read platform pattern = .ok compiled) :
    Catches platform text pattern ↔ compiled.matches? text.toList = true := by
  unfold Catches
  rw [read]
  constructor
  · rintro ⟨other, same, found⟩
    obtain rfl := Except.ok.inj same
    exact found
  · intro found
    exact ⟨compiled, rfl, found⟩

/-- A pattern that cannot be compiled catches nothing. -/
theorem not_catches_of_read (text pattern : String) (defect : Pattern.Defect)
    (read : Pattern.read platform pattern = .error defect) : ¬ Catches platform text pattern := by
  rintro ⟨compiled, same, -⟩
  rw [read] at same
  cases same

instance (text pattern : String) : Decidable (Catches platform text pattern) :=
  match read : Pattern.read platform pattern with
  | .ok compiled => decidable_of_iff _ (catches_iff_of_read platform text pattern compiled read).symm
  | .error defect => isFalse (not_catches_of_read platform text pattern defect read)

/-- The violation that names a pattern and the part of the post that it catches. -/
def patternMessage (part pattern : String) : String :=
  part ++ " matches prohibited pattern /" ++ pattern ++ "/"

variable (rules : Rules) (post : Post)

/-- A post breaks exactly the bans of the words that it mentions. -/
theorem breaksBan_eq_decide (word : String) : breaksBan post word = decide (post.Mentions word) := by
  rw [Bool.eq_iff_iff, breaksBan_iff, decide_eq_true_iff, Post.Mentions, Ne, Ne,
    Text.lower_eq_nil_iff, String.toList_eq_nil_iff]

/-- The violations of bans name the banned words that the post mentions. -/
theorem banViolations_eq : banViolations rules post =
    (rules.bannedWords.filter fun word => decide (post.Mentions word)).map banMessage := by
  have broken : breaksBan post = fun word => decide (post.Mentions word) :=
    funext (breaksBan_eq_decide post)
  rw [← broken]
  rfl

/-- When it can be told whether a pattern matches a text, it matches exactly if it catches it. -/
theorem patternMatches_eq_decide (pattern text : String) (found : Bool)
    (told : patternMatches platform pattern text = .ok found) :
    found = decide (Catches platform text pattern) := by
  unfold patternMatches at told
  split at told
  case h_1 compiled read =>
    obtain rfl := Except.ok.inj told
    rw [Bool.eq_iff_iff, decide_eq_true_iff, catches_iff_of_read platform text pattern compiled read]
  case h_2 read =>
    obtain rfl := Except.ok.inj told
    exact (decide_eq_false (not_catches_of_read platform text pattern _ read)).symm
  all_goals cases told

/-- The violations of patterns name the patterns that catch the text. -/
theorem patternViolations_eq (part text : String) (patterns listed : List String)
    (told : patternViolations platform part text patterns = .ok listed) : listed =
      (patterns.filter fun pattern => decide (Catches platform text pattern)).map
        (patternMessage part) := by
  induction patterns generalizing listed with
  | nil => exact (Except.ok.inj told).symm
  | cons pattern rest inductionHypothesis =>
    simp only [patternViolations, bind_eq_ok_iff] at told
    obtain ⟨found, matched, others, further, same⟩ := told
    obtain rfl := Except.ok.inj same
    obtain rfl := inductionHypothesis others further
    obtain rfl := patternMatches_eq_decide platform pattern text found matched
    by_cases catches : Catches platform text pattern
    · simp only [List.filter_cons, catches, decide_true, if_true, List.map_cons]
      rfl
    · simp only [List.filter_cons, catches, decide_false, Bool.false_eq_true, if_false]

/-- There is at most one violation of the link policy. -/
theorem length_linkViolations : (linkViolations rules post).length ≤ 1 := by
  unfold linkViolations
  cases rules.linkPolicy with
  | noLink =>
    dsimp only
    split
    · exact Nat.le_refl 1
    · exact Nat.zero_le 1
  | oneLink =>
    dsimp only
    split
    · exact Nat.le_refl 1
    · exact Nat.zero_le 1
  | ok => exact Nat.zero_le 1
  | unknown => exact Nat.zero_le 1

/-- The link policy is violated when no link is allowed and there is one, or when one is allowed
and the body has more. -/
theorem linkViolations_ne_nil_iff : linkViolations rules post ≠ [] ↔
    (rules.linkPolicy = .noLink ∧ post.hasLink = true) ∨
      (rules.linkPolicy = .oneLink ∧ 1 < countLinks post.body) := by
  unfold linkViolations
  cases rules.linkPolicy with
  | noLink => simp
  | oneLink => simp
  | ok => simp
  | unknown => simp

/-- All violations are those that the rules declare. -/
theorem violations_eq (found : List String)
    (told : violations platform rules post = .ok found) : found =
    (rules.bannedWords.filter fun word => decide (post.Mentions word)).map banMessage
      ++ (rules.titleRegexes.filter fun pattern => decide (Catches platform post.title pattern)).map
        (patternMessage "Title")
      ++ (rules.bodyRegexes.filter fun pattern => decide (Catches platform post.body pattern)).map
        (patternMessage "Body")
      ++ linkViolations rules post := by
  simp only [violations, bind_eq_ok_iff] at told
  obtain ⟨titles, titled, bodies, bodied, same⟩ := told
  rw [← Except.ok.inj same, banViolations_eq rules post,
    patternViolations_eq platform "Title" post.title rules.titleRegexes titles titled,
    patternViolations_eq platform "Body" post.body rules.bodyRegexes bodies bodied]

/-- A verdict blocks exactly when there is a violation. -/
theorem stateOf_eq_blocked_iff (found noted : List String) :
    stateOf found noted = .blocked ↔ found ≠ [] := by
  cases found <;> cases noted <;> simp [stateOf]

/-- A verdict warns exactly when there is a warning and no violation. -/
theorem stateOf_eq_warn_iff (found noted : List String) :
    stateOf found noted = .warn ↔ found = [] ∧ noted ≠ [] := by
  cases found <;> cases noted <;> simp [stateOf]

/-- A verdict clears a post exactly when there is neither a violation nor a warning. -/
theorem stateOf_eq_ok_iff (found noted : List String) :
    stateOf found noted = .ok ↔ found = [] ∧ noted = [] := by
  cases found <;> cases noted <;> simp [stateOf]

/-- A verdict as the rules declare it. -/
structure IsDeclared (result : LintResult) : Prop where
  violations : result.violations =
    (rules.bannedWords.filter fun word => decide (post.Mentions word)).map banMessage
      ++ (rules.titleRegexes.filter fun pattern => decide (Catches platform post.title pattern)).map
        (patternMessage "Title")
      ++ (rules.bodyRegexes.filter fun pattern => decide (Catches platform post.body pattern)).map
        (patternMessage "Body")
      ++ linkViolations rules post
  atMostOneLink : (linkViolations rules post).length ≤ 1
  link : linkViolations rules post ≠ [] ↔
    (rules.linkPolicy = .noLink ∧ post.hasLink = true) ∨
      (rules.linkPolicy = .oneLink ∧ 1 < countLinks post.body)
  blocked : result.state = .blocked ↔ result.violations ≠ []
  warned : result.state = .warn ↔ result.violations = [] ∧ result.warnings ≠ []
  cleared : result.state = .ok ↔ result.violations = [] ∧ result.warnings = []

/-- Other notes of the wiki change nothing in a verdict, nor whether there is one, but the notes
that it shows. -/
theorem evaluate_wikiNotes (notes : List String) :
    evaluate platform { rules with wikiNotes := notes } post =
      (evaluate platform rules post).map fun result =>
        { result with notes := guidelineNotes { rules with wikiNotes := notes } } := by
  have found : violations platform { rules with wikiNotes := notes } post =
      violations platform rules post := rfl
  have noted : warnings { rules with wikiNotes := notes } post = warnings rules post := rfl
  unfold evaluate
  rw [found, noted]
  cases violations platform rules post with
  | error fault => rfl
  | ok listed =>
    cases warnings rules post with
    | error fault => rfl
    | ok written => rfl

/-- A verdict is the one that the rules declare, and it stays as it is when the notes of the wiki
are replaced by any others. -/
theorem evaluate_isDeclared (result : LintResult)
    (given : evaluate platform rules post = .ok result) :
    IsDeclared platform rules post result ∧ ∀ notes, ∃ other,
      evaluate platform { rules with wikiNotes := notes } post = .ok other ∧
        other.state = result.state ∧ other.violations = result.violations ∧
        other.warnings = result.warnings := by
  constructor
  · obtain ⟨found, noted, told, -, rfl⟩ := (evaluate_eq_ok_iff rules post result).mp given
    exact
      { violations := violations_eq platform rules post found told
        atMostOneLink := length_linkViolations rules post
        link := linkViolations_ne_nil_iff rules post
        blocked := stateOf_eq_blocked_iff found noted
        warned := stateOf_eq_warn_iff found noted
        cleared := stateOf_eq_ok_iff found noted }
  · intro notes
    refine ⟨{ result with notes := guidelineNotes { rules with wikiNotes := notes } }, ?_, rfl, rfl,
      rfl⟩
    rw [evaluate_wikiNotes, given]
    rfl

/-- Rules that list a word and a pattern twice, a word without letters, and a pattern that cannot be
compiled. -/
def repetitiveRules : Rules where
  bannedWords := ["Spam", "", "ham", "Spam"]
  titleRegexes := ["b.y", "("]
  bodyRegexes := ["n+o", "n+o"]
  linkPolicy := .oneLink
  flairRequired := true
  wikiNotes := ["Be kind"]

/-- The verdict of repetitive rules on a post tells words and patterns as often as they are
listed. -/
theorem evaluate_isDeclared_repetitive :
    let post : Post := ⟨"BUY spam", "no a.com b.com", true⟩
    let result : LintResult := ⟨.blocked, ["Contains banned term \"Spam\"",
      "Contains banned term \"Spam\"", "Title matches prohibited pattern /b.y/",
      "Body matches prohibited pattern /n+o/", "Body matches prohibited pattern /n+o/",
      "Link policy (one-link): found 2 links in the body, this community allows one"],
      ["This community may require post flair or tags"], ["Community guideline: Be kind"]⟩
    evaluate .common repetitiveRules post = .ok result ∧
      IsDeclared .common repetitiveRules post result ∧ ∀ notes, ∃ other,
        evaluate .common { repetitiveRules with wikiNotes := notes } post = .ok other ∧
          other.state = result.state ∧ other.violations = result.violations ∧
          other.warnings = result.warnings := by
  intro post result
  have shown : (evaluate .common repetitiveRules post).toOption = some result := by decide +kernel
  have given := eq_ok_of_toOption _ _ shown
  exact ⟨given, evaluate_isDeclared .common repetitiveRules post result given⟩

end Rulebook.Lint
