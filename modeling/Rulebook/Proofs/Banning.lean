import Rulebook.Proofs.Entries
import Rulebook.Proofs.Findings

/-!
# What bans catch

A banned word and a post are lowered apart and compared afterwards. So a word that stands in a
post letter by letter can be missed: a capital sigma in it takes one form in the word and may take
the other in the post. The words that no post hides are those without an open sigma.

Banned terms that were compiled from published rules are of this kind. They are lowered when they
are read, and after that nothing changes them but white space that is dropped at their ends.
-/

namespace Rulebook

open Extract (bannedTerms)

namespace Lint

/-- A post carries a word that stands in its title or in its body as it is. -/
def Post.Carries (post : Post) (word : String) : Prop :=
  word.toList <:+: post.title.toList ∨ word.toList <:+: post.body.toList

/-- Rules that have no patterns. -/
structure Unpatterned (rules : Rules) : Prop where
  titles : rules.titleRegexes = []
  bodies : rules.bodyRegexes = []

/-- A word that is found wherever it stands is a ban that every post breaks that carries it. -/
theorem breaksBan_of_found (banned : String) (some : banned ≠ "") (post : Post)
    (found : ∀ text, banned.toList <:+: text → Text.lower banned.toList <:+: Text.lower text)
    (carries : post.Carries banned) : breaksBan post banned = true := by
  rw [breaksBan_iff]
  refine ⟨some, ?_⟩
  rcases carries with title | body
  · exact Or.inl (found _ title)
  · exact Or.inr (found _ body)

/-- A word with an open sigma stands in some title that does not break its ban. -/
theorem exists_unbroken_ban (banned : String) (some : banned ≠ "")
    (opened : Text.hasOpenSigma [] banned.toList = true) :
    ∃ post : Post, post.Carries banned ∧ breaksBan post banned = false := by
  obtain ⟨text, inside, missing⟩ := Text.exists_missing_text banned.toList opened
  refine ⟨⟨String.ofList text, "", false⟩, ?_, ?_⟩
  · left
    rw [String.toList_ofList]
    exact inside
  · rw [Bool.eq_false_iff]
    intro breaks
    obtain ⟨-, title | body⟩ := (breaksBan_iff _ banned).mp breaks
    · rw [String.toList_ofList] at title
      exact missing title
    · have none : Text.lower banned.toList = [] := List.eq_nil_of_infix_nil body
      rw [Text.lower_eq_nil_iff, String.toList_eq_nil_iff] at none
      exact some none

/-- A ban that a post breaks is told in its verdict, and blocks it. -/
theorem told_of_breaksBan {platform : Pattern.Platform} (rules : Rules) (post : Post)
    (banned : String) (listed : banned ∈ rules.bannedWords) (breaks : breaksBan post banned = true)
    (result : LintResult) (given : evaluate platform rules post = .ok result) :
    result.state = .blocked ∧ banMessage banned ∈ result.violations := by
  have told : banMessage banned ∈ result.violations :=
    mem_of_mem_banViolations rules post result given _
      ((mem_banViolations_iff rules post banned).mpr ⟨listed, breaks⟩)
  exact ⟨state_of_mem_violations rules post result given _ told, told⟩

/-- Without patterns a ban that a post keeps is not told. -/
theorem untold_of_unbroken {platform : Pattern.Platform} (rules : Rules)
    (unpatterned : Unpatterned rules) (post : Post) (banned : String)
    (unbroken : breaksBan post banned = false) (result : LintResult)
    (given : evaluate platform rules post = .ok result) : banMessage banned ∉ result.violations := by
  obtain ⟨found, noted, listed, -, rfl⟩ := (evaluate_eq_ok_iff rules post result).mp given
  rw [violations_of_no_patterns rules post unpatterned.titles unpatterned.bodies] at listed
  obtain rfl := Except.ok.inj listed
  intro told
  rcases List.mem_append.mp told with ban | link
  · obtain ⟨-, breaks⟩ := (mem_banViolations_iff rules post banned).mp ban
    rw [unbroken] at breaks
    cases breaks
  · exact banMessage_notMem_linkViolations rules post banned link

/-- Among rules without patterns a banned word that a post carries as it is blocks the post, and the
verdict names the word, for every word without an open sigma; a word with one stands in some post
whose verdict does not name it. A verdict is given exactly when the numbers of the rules can be
told.

Proof: a word is lowered in a post as it is lowered alone unless one of its sigmas is open. In front
of an open sigma or behind it there is room for one cased letter that turns it, and a letter that
the lowered word does not begin or end with leaves the word no other place to be found. -/
theorem verbatim_ban_blocks_iff (platform : Pattern.Platform) (rules : Rules)
    (unpatterned : Unpatterned rules) (banned : String) (listed : banned ∈ rules.bannedWords)
    (some : banned ≠ "") :
    (Text.hasOpenSigma [] banned.toList = false → ∀ post : Post, post.Carries banned →
      Tellable rules post → ∃ result, evaluate platform rules post = .ok result ∧
        result.state = .blocked ∧ banMessage banned ∈ result.violations) ∧
    (Text.hasOpenSigma [] banned.toList = true → ∃ post : Post, post.Carries banned ∧
      breaksBan post banned = false ∧
      ∀ result, evaluate platform rules post = .ok result → banMessage banned ∉ result.violations) ∧
    ∀ post : Post, (∃ result, evaluate platform rules post = .ok result) ↔ Tellable rules post := by
  have answers (post : Post) : (∃ result, evaluate platform rules post = .ok result) ↔
      Tellable rules post :=
    exists_evaluate_iff rules post unpatterned.titles unpatterned.bodies
  refine ⟨?_, ?_, answers⟩
  · intro closed post carries tellable
    obtain ⟨result, given⟩ := (answers post).mpr tellable
    have found := (Text.found_everywhere_iff banned.toList).mpr closed
    have breaks := breaksBan_of_found banned some post found carries
    exact ⟨result, given, told_of_breaksBan rules post banned listed breaks result given⟩
  · intro opened
    obtain ⟨post, carries, unbroken⟩ := exists_unbroken_ban banned some opened
    exact ⟨post, carries, unbroken, untold_of_unbroken rules unpatterned post banned unbroken⟩

/-- Rules that ban a word with a sigma between its letters. -/
def starRules : Rules := { bannedWords := ["ΦΩΣΦΟΡ"] }

/-- A sigma between letters is not open, and the word blocks the post. -/
theorem inner_sigma_blocks :
    Unpatterned starRules ∧ "ΦΩΣΦΟΡ" ∈ starRules.bannedWords ∧ "ΦΩΣΦΟΡ" ≠ "" ∧
      ∃ result, evaluate .common starRules ⟨"Ο ΦΩΣΦΟΡΟΣ", "", false⟩ = .ok result ∧
        result.state = .blocked ∧ banMessage "ΦΩΣΦΟΡ" ∈ result.violations := by
  have unpatterned : Unpatterned starRules := ⟨rfl, rfl⟩
  have listed : "ΦΩΣΦΟΡ" ∈ starRules.bannedWords := List.mem_singleton.mpr rfl
  have some : "ΦΩΣΦΟΡ" ≠ "" := by decide
  obtain ⟨blocks, -, answers⟩ :=
    verbatim_ban_blocks_iff .common starRules unpatterned "ΦΩΣΦΟΡ" listed some
  have carries : Post.Carries ⟨"Ο ΦΩΣΦΟΡΟΣ", "", false⟩ "ΦΩΣΦΟΡ" :=
    Or.inl ⟨"Ο ".toList, "ΟΣ".toList, by decide⟩
  have tellable : Tellable starRules ⟨"Ο ΦΩΣΦΟΡΟΣ", "", false⟩ :=
    (answers _).mp ⟨_, rfl⟩
  exact ⟨unpatterned, listed, some, blocks (by decide +kernel) _ carries tellable⟩

/-- Rules that ban a word with a sigma at its end. -/
def roadRules : Rules := { bannedWords := ["ΟΔΟΣ"] }

/-- A title that goes on where the word ends hides it, and the post passes. -/
theorem final_sigma_passes :
    ¬ ∀ (rules : Rules) (banned : String) (post : Post), Unpatterned rules →
      banned ∈ rules.bannedWords → banned ≠ "" → post.Carries banned →
      ∃ result, evaluate .common rules post = .ok result ∧ result.state = .blocked ∧
        banMessage banned ∈ result.violations := by
  intro law
  have carries : Post.Carries ⟨"ΟΔΟΣΗΜΑ", "", false⟩ "ΟΔΟΣ" :=
    Or.inl ⟨[], "ΗΜΑ".toList, by decide⟩
  obtain ⟨result, given, blocked, -⟩ := law roadRules "ΟΔΟΣ" ⟨"ΟΔΟΣΗΜΑ", "", false⟩ ⟨rfl, rfl⟩
    (List.mem_singleton.mpr rfl) (by decide) carries
  have passes : (evaluate .common roadRules ⟨"ΟΔΟΣΗΜΑ", "", false⟩).toOption.map (·.state) =
      some .ok := by decide +kernel
  rw [given, Except.toOption, Option.map_some, blocked] at passes
  exact absurd passes (by decide)

end Lint

/-- Every term that a rule bans is a text of small letters. -/
theorem small_of_mem_bannedTerms (name description term : String)
    (extracted : term ∈ bannedTerms name description) :
    ∀ c ∈ term.toList, Text.small c = c := by
  unfold bannedTerms at extracted
  split at extracted
  · obtain ⟨found, -, listed⟩ := List.mem_flatMap.mp extracted
    obtain ⟨part, -, taken⟩ := List.mem_filterMap.mp listed
    unfold Extract.bannedTerm? at taken
    dsimp only at taken
    split at taken
    · obtain rfl := Option.some.inj taken
      rw [String.toList_ofList]
      exact Text.small_of_mem_lower _
    · cases taken
  · cases extracted

/-- A rule that can be read is among the statements that all rules are read as. -/
theorem mem_statements_of_mem (rules : List Json) (statements : List Statement)
    (read : rules.mapM Statement.ofJson = .ok statements) (rule : Json) (member : rule ∈ rules)
    (statement : Statement) (reads : Statement.ofJson rule = .ok statement) :
    statement ∈ statements := by
  induction rules generalizing statements with
  | nil => cases member
  | cons first rest inductionHypothesis =>
    simp only [List.mapM_cons, bind_eq_ok_iff] at read
    obtain ⟨here, readsFirst, others, readsRest, same⟩ := read
    obtain rfl := Except.ok.inj same
    rcases List.mem_cons.mp member with rfl | later
    · rw [readsFirst] at reads
      obtain rfl := Except.ok.inj reads
      exact List.mem_cons_self
    · exact List.mem_cons_of_mem here (inductionHypothesis others readsRest later)

namespace Gathered

open Lint (Post evaluate banMessage)

/-- A verdict on gathered pages is that of the rules compiled from their statements. -/
theorem exists_statements_of_check {platform : Pattern.Platform} (rules : List Json)
    (wiki : String) (post : Post) (result : LintResult)
    (given : check platform ⟨rules, .str wiki⟩ post = .ok result) :
    ∃ statements, rules.mapM Statement.ofJson = .ok statements ∧
      evaluate platform (Rules.compile statements wiki) post = .ok result := by
  obtain ⟨compiled, stated, judged⟩ := (bind_eq_ok_iff _ _ _).mp given
  obtain ⟨statements, read, -⟩ := (bind_eq_ok_iff _ _ _).mp stated
  rw [check_of_read platform rules wiki post statements read] at given
  exact ⟨statements, read, given⟩

/-- A term that a published rule bans is banned when all rules are compiled, but for white space
at its ends. -/
theorem trimmed_mem_bannedWords (statements : List Statement) (wiki : String)
    (statement : Statement) (member : statement ∈ statements) (term : String)
    (extracted : term ∈ bannedTerms statement.name statement.description)
    (visible : Text.trimmed term ≠ "") :
    Text.trimmed term ∈ (Rules.compile statements wiki).bannedWords := by
  apply Text.trimmed_mem_dedupe
  · exact List.mem_flatMap.mpr ⟨statement, member, extracted⟩
  · exact visible
  · intro entry listed
    obtain ⟨other, -, banned⟩ := List.mem_flatMap.mp listed
    exact small_of_mem_bannedTerms other.name other.description entry banned

/-- No banned term is lost between the published rules and the check. Take any rules and any wiki
page, any of the rules that bans a term that is not blank, and any post that carries the term as it
is. If there is a verdict at all, it blocks the post and names the term, without the white space at
its ends.

The other rules may ban the same term in other spellings, and one spelling stays of all. They were
all lowered when they were read, so they differ in white space at their ends only, and what stays
of each is the same text. -/
theorem extracted_term_blocks {platform : Pattern.Platform} (rules : List Json) (wiki : String)
    (post : Post) (result : LintResult)
    (given : check platform ⟨rules, .str wiki⟩ post = .ok result) (rule : Json)
    (member : rule ∈ rules) (statement : Statement)
    (reads : Statement.ofJson rule = .ok statement) (term : String)
    (extracted : term ∈ bannedTerms statement.name statement.description)
    (visible : Text.trimmed term ≠ "") (carries : post.Carries term) :
    result.state = .blocked ∧ banMessage (Text.trimmed term) ∈ result.violations := by
  obtain ⟨statements, read, judged⟩ := exists_statements_of_check rules wiki post result given
  have known := mem_statements_of_mem rules statements read rule member statement reads
  have listed := trimmed_mem_bannedWords statements wiki statement known term extracted visible
  have inside : (Text.trimmed term).toList <:+: term.toList := by
    rw [Text.trimmed, String.toList_ofList]
    exact Text.trim_isInfix term.toList
  have isSmall : ∀ c ∈ (Text.trimmed term).toList, Text.small c = c := fun c letter =>
    small_of_mem_bannedTerms _ _ term extracted c (inside.subset letter)
  have carried : post.Carries (Text.trimmed term) := by
    rcases carries with title | body
    · exact Or.inl (inside.trans title)
    · exact Or.inr (inside.trans body)
  have breaks : Lint.breaksBan post (Text.trimmed term) = true := by
    apply Lint.breaksBan_of_found _ visible post _ carried
    intro text found
    rw [Text.lower_of_small _ isSmall]
    exact Text.infix_lower_of_small _ text found isSmall
  exact Lint.told_of_breaksBan _ post _ listed breaks result judged

/-- Rules that can be read give a verdict on every post when the wiki page is empty. -/
theorem exists_check_of_no_wiki (platform : Pattern.Platform) (rules : List Json)
    (statements : List Statement) (read : rules.mapM Statement.ofJson = .ok statements)
    (post : Post) : ∃ result, check platform ⟨rules, .str ""⟩ post = .ok result := by
  have silent : Extract.minAccountAgeDays? "" = none := by decide
  rw [check_of_read platform rules "" post statements read]
  rcases Lint.evaluate_compile_cases platform statements "" post with ⟨-, given⟩ | ⟨⟨days, stated, -⟩, -⟩
  · exact given
  · rw [silent] at stated
    cases stated

/-- A page of two rules that ban one term, the second with a blank in its quotes. -/
def twiceBannedPage : List Json :=
  [.obj [("short_name", .str "Banned words"), ("description", .str "Banned: SPAM, eggs")],
    .obj [("short_name", .str "Also banned"), ("description", .str "Banned terms: 'spam '")]]

/-- The term with a blank behind it is dropped in favour of the other and blocks nevertheless. -/
theorem dropped_spelling_blocks :
    ∃ result, check .common ⟨twiceBannedPage, .str ""⟩ ⟨"", "No spam here", false⟩ = .ok result ∧
      "spam " ∈ bannedTerms "Also banned" "Banned terms: 'spam '" ∧
      result.state = .blocked ∧ banMessage "spam" ∈ result.violations := by
  have extracted : "spam " ∈ bannedTerms "Also banned" "Banned terms: 'spam '" := by
    decide
  obtain ⟨result, given⟩ := exists_check_of_no_wiki .common twiceBannedPage _ rfl
    ⟨"", "No spam here", false⟩
  have carries : Post.Carries ⟨"", "No spam here", false⟩ "spam " :=
    Or.inr ⟨"No ".toList, "here".toList, by decide⟩
  have trimmed : Text.trimmed "spam " = "spam" := by decide
  have blocks := extracted_term_blocks twiceBannedPage "" _ result given _
    (List.mem_cons_of_mem _ List.mem_cons_self) ⟨"Also banned", "Banned terms: 'spam '"⟩ rfl
    "spam " extracted (by rw [trimmed]; decide) carries
  rw [trimmed] at blocks
  exact ⟨result, given, extracted, blocks⟩

end Gathered

end Rulebook
