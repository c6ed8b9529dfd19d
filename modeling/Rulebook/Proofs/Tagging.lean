import Rulebook.Proofs.Banning
import Rulebook.Proofs.Warnings

/-!
# Which tags a title must carry

Compiled rules require one of the tags that the published rules state. Of a tag that is stated in
several spellings the first stays, whereas titles are searched for tags letter by letter. So a
title is accepted for the first spelling of a tag, and not for a later one.
-/

namespace Rulebook

open Extract (bracketTags)

namespace Lint

/-- True of the warning that a tag is missing. -/
def isTagWarning (warning : String) : Bool :=
  Text.startsWith "Missing required tag".toList warning.toList

/-- True of outcomes that warn of a missing tag. -/
def missesTag (result : LintResult) : Bool := result.warnings.any isTagWarning

/-- The warning of a missing tag is told by its beginning. -/
theorem isTagWarning_iff (warning : String) :
    isTagWarning warning = true ↔ Topic.tags.Marks warning := by
  rw [isTagWarning, Text.startsWith_eq_true_iff]
  exact (and_iff_left List.nil_suffix).symm

/-- A verdict warns of a missing tag exactly when the check of the tags does. -/
theorem missesTag_eq {platform : Pattern.Platform} (rules : Rules) (post : Post)
    (result : LintResult) (given : evaluate platform rules post = .ok result) :
    missesTag result = !(tagWarnings rules post).isEmpty := by
  have told := warnsOf_iff rules post .tags result given (tagWarnings rules post) rfl
  rw [Bool.eq_iff_iff, missesTag, List.any_eq_true, Bool.not_eq_true', List.isEmpty_eq_false_iff,
    ← told]
  simp only [isTagWarning_iff, WarnsOf]

/-- A verdict warns of a missing tag exactly when tags are required and the title has none of them,
letter by letter. -/
theorem missesTag_iff {platform : Pattern.Platform} (rules : Rules) (post : Post)
    (result : LintResult) (given : evaluate platform rules post = .ok result) :
    missesTag result = true ↔ rules.requiredTags ≠ [] ∧
      ∀ tag ∈ rules.requiredTags, ¬ tag.toList <:+: post.title.toList := by
  have quiet : (tagWarnings rules post).isEmpty =
      (rules.requiredTags.isEmpty ||
        rules.requiredTags.any fun tag => Text.occurs tag.toList post.title.toList) := by
    unfold tagWarnings
    dsimp only
    split
    · next accepted => rw [accepted, List.isEmpty_nil]
    · next refused => rw [Bool.eq_false_iff.mpr refused, List.isEmpty_cons]
  rw [missesTag_eq rules post result given, quiet]
  simp only [Bool.not_or, Bool.and_eq_true, Bool.not_eq_true', List.isEmpty_eq_false_iff,
    List.any_eq_false, Text.occurs_eq_true_iff]

end Lint

/-- All tags that published rules state, in order. -/
def statedTags (statements : List Statement) : List String :=
  statements.flatMap fun statement => bracketTags statement.description

/-- A tag stands in brackets. -/
theorem exists_inside_of_mem_tagsOf (cs : List Char) (tag : String)
    (stated : tag ∈ Extract.tagsOf cs) : ∃ inside, tag.toList = '[' :: (inside ++ [']']) := by
  induction cs with
  | nil => cases stated
  | cons c rest inductionHypothesis =>
    unfold Extract.tagsOf at stated
    split at stated
    · split at stated
      · next inside _ =>
        rcases List.mem_cons.mp stated with rfl | later
        · refine ⟨inside, ?_⟩
          rw [String.toList_ofList]
          rfl
        · exact inductionHypothesis later
      · exact inductionHypothesis stated
    · exact inductionHypothesis stated

/-- There is no white space at the ends of a tag. -/
theorem trimmed_of_mem_statedTags (statements : List Statement) (tag : String)
    (stated : tag ∈ statedTags statements) : Text.trimmed tag = tag ∧ Text.entryKey tag ≠ "" := by
  obtain ⟨statement, -, listed⟩ := List.mem_flatMap.mp stated
  obtain ⟨inside, letters⟩ := exists_inside_of_mem_tagsOf _ tag listed
  have opening : Text.isBlank '[' = false := by decide
  have closing : Text.isBlank ']' = false := by decide
  have front : Text.trimStart ('[' :: (inside ++ [']'])) = '[' :: (inside ++ [']']) :=
    List.dropWhile_cons_of_neg (by simp [opening])
  have back : Text.trimEnd ('[' :: (inside ++ [']'])) = '[' :: (inside ++ [']']) := by
    have turned : ('[' :: (inside ++ [']'])).reverse = ']' :: (inside.reverse ++ ['[']) := by
      simp
    rw [Text.trimEnd, turned, List.dropWhile_cons_of_neg (by simp [closing]), ← turned,
      List.reverse_reverse]
  have same : Text.trimmed tag = tag := by
    rw [Text.trimmed, Text.trim, letters, front, back, ← letters, String.ofList_toList]
  refine ⟨same, ?_⟩
  rw [Text.entryKey, same, Text.lowered]
  intro blank
  have none := congrArg String.toList blank
  rw [String.toList_ofList, String.toList_empty, Text.lower_eq_nil_iff, letters] at none
  cases none

/-- Compiled rules require of each stated tag the first spelling. -/
theorem mem_requiredTags_iff (statements : List Statement) (wiki tag : String) :
    tag ∈ (Rules.compile statements wiki).requiredTags ↔
      Text.firstAlike (statedTags statements) tag = some tag := by
  have compiled : (Rules.compile statements wiki).requiredTags =
      Text.dedupe (statedTags statements) := rfl
  rw [compiled, Text.mem_dedupe_iff]
  constructor
  · rintro ⟨first, found, -, rfl⟩
    obtain ⟨same, -⟩ :=
      trimmed_of_mem_statedTags statements first (List.mem_of_find?_eq_some found)
    rw [same]
    exact found
  · intro found
    obtain ⟨same, visible⟩ :=
      trimmed_of_mem_statedTags statements tag (List.mem_of_find?_eq_some found)
    exact ⟨tag, found, visible, same.symm⟩

namespace Gathered

open Lint (Post missesTag)

/-- A title that carries a stated tag in its first spelling is never warned of a missing tag. Take
any rules and any wiki page, and any tag that the rules state. If there is a verdict on a post, it
warns of a missing tag exactly when the title carries no tag in a spelling that is the first of it,
so it does not warn when the title carries this tag and no other spelling of it was stated
before. -/
theorem first_spelling_is_accepted {platform : Pattern.Platform} (rules : List Json)
    (wiki : String) (post : Post) (result : LintResult)
    (given : check platform ⟨rules, .str wiki⟩ post = .ok result)
    (statements : List Statement) (read : rules.mapM Statement.ofJson = .ok statements)
    (tag : String) (stated : tag ∈ statedTags statements) :
    (tag.toList <:+: post.title.toList → Text.firstAlike (statedTags statements) tag = some tag →
      missesTag result = false) ∧
    (missesTag result = true ↔ ∀ first ∈ statedTags statements,
      Text.firstAlike (statedTags statements) first = some first →
        ¬ first.toList <:+: post.title.toList) := by
  rw [check_of_read platform rules wiki post statements read] at given
  have warned := Lint.missesTag_iff (Rules.compile statements wiki) post result given
  have required := mem_requiredTags_iff statements wiki
  have some : (Rules.compile statements wiki).requiredTags ≠ [] := by
    obtain ⟨first, -, -, -, itself⟩ := Text.exists_firstAlike (statedTags statements) tag stated
    exact List.ne_nil_of_mem ((required first).mpr itself)
  constructor
  · intro carries first
    rw [Bool.eq_false_iff]
    intro misses
    obtain ⟨-, missing⟩ := warned.mp misses
    exact missing tag ((required tag).mpr first) carries
  · rw [warned]
    constructor
    · rintro ⟨-, missing⟩ first - itself
      exact missing first ((required first).mpr itself)
    · intro missing
      refine ⟨some, fun first member => ?_⟩
      have itself := (required first).mp member
      exact missing first (List.mem_of_find?_eq_some itself) itself

/-- A page of two rules that state one tag in two spellings. -/
def twoSpellingsPage : List Json :=
  [.obj [("short_name", .str "Originals"), ("description", .str "Mark them with [OC] please")],
    .obj [("short_name", .str "Also"), ("description", .str "[oc] is for originals")]]

/-- The statements of this page. -/
def twoSpellings : List Statement :=
  [⟨"Originals", "Mark them with [OC] please"⟩, ⟨"Also", "[oc] is for originals"⟩]

/-- A title in the first spelling is accepted. -/
theorem capital_tag_is_accepted :
    twoSpellingsPage.mapM Statement.ofJson = .ok twoSpellings ∧
      "[OC]" ∈ statedTags twoSpellings ∧
      Text.firstAlike (statedTags twoSpellings) "[OC]" = some "[OC]" ∧
      ∃ result, check .common ⟨twoSpellingsPage, .str ""⟩ ⟨"My cat [OC]", "", false⟩ = .ok result ∧
        missesTag result = false := by
  have read : twoSpellingsPage.mapM Statement.ofJson = .ok twoSpellings := rfl
  have stated : "[OC]" ∈ statedTags twoSpellings := by decide
  have first : Text.firstAlike (statedTags twoSpellings) "[OC]" = some "[OC]" := by decide
  obtain ⟨result, given⟩ := exists_check_of_no_wiki .common twoSpellingsPage twoSpellings read
    ⟨"My cat [OC]", "", false⟩
  obtain ⟨accepted, -⟩ := first_spelling_is_accepted twoSpellingsPage "" _ result given
    twoSpellings read "[OC]" stated
  exact ⟨read, stated, first, result, given,
    accepted ⟨"My cat ".toList, [], by decide⟩ first⟩

/-- A title in the second spelling is warned of a missing tag. -/
theorem small_tag_is_refused :
    ¬ ∀ (rules : List Json) (wiki : String) (post : Post) (result : LintResult)
      (statements : List Statement) (tag : String),
      check .common ⟨rules, .str wiki⟩ post = .ok result →
      rules.mapM Statement.ofJson = .ok statements → tag ∈ statedTags statements →
      tag.toList <:+: post.title.toList → missesTag result = false := by
  intro law
  have read : twoSpellingsPage.mapM Statement.ofJson = .ok twoSpellings := rfl
  have required : (Rules.compile twoSpellings "").requiredTags = ["[OC]"] := by decide +kernel
  obtain ⟨result, given⟩ := exists_check_of_no_wiki .common twoSpellingsPage twoSpellings read
    ⟨"My cat [oc]", "", false⟩
  have accepted := law twoSpellingsPage "" _ result twoSpellings "[oc]" given read
    (by decide) ⟨"My cat ".toList, [], by decide⟩
  rw [check_of_read .common twoSpellingsPage "" _ twoSpellings read] at given
  have refused : missesTag result = true := by
    rw [Lint.missesTag_iff _ _ result given, required]
    refine ⟨List.cons_ne_nil _ _, fun tag member => ?_⟩
    obtain rfl := List.mem_singleton.mp member
    rw [← Text.occurs_eq_true_iff]
    decide
  rw [refused] at accepted
  cases accepted

end Gathered

end Rulebook
