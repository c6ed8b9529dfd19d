import Rulebook.Proofs.Findings

/-!
# What a warning is about

Each part of a check gives warnings of one kind only, and what such a warning is about can be told
from how it begins and ends: no text fits two of the kinds. So a verdict has a warning of a kind
exactly when the part of the check that gives these warnings has found something.
-/

namespace Rulebook.Lint

/-- What a warning can be about. -/
inductive Topic where
  | link
  | tags
  | title
  | body
  | flair
  | karma
  | age
  | verification
  | votes
deriving DecidableEq

namespace Topic

/-- How the warnings about a topic begin. -/
def front : Topic → String
  | link => "Link policy"
  | tags => "Missing required tag"
  | title => "Title too long"
  | body => "Body too long"
  | flair => "This community may require post flair"
  | karma => "This community requires "
  | age => "This community requires "
  | verification => "This community requires "
  | votes => "Asking for upvotes"

/-- How the warnings about a topic end, for those that begin alike. -/
def back : Topic → String
  | karma => "+ karma"
  | age => " old accounts"
  | verification => "verification before posting"
  | _ => ""

/-- A warning is about a topic when it begins and ends as the warnings about it do. -/
def Marks (topic : Topic) (warning : String) : Prop :=
  topic.front.toList <+: warning.toList ∧ topic.back.toList <:+ warning.toList

instance (topic : Topic) (warning : String) : Decidable (topic.Marks warning) :=
  inferInstanceAs (Decidable (_ ∧ _))

/-- The topics in the order of their warnings. -/
def order : List Topic := [link, tags, title, body, flair, karma, age, verification, votes]

/-- Every topic has its place in the order. -/
theorem mem_order (topic : Topic) : topic ∈ order := by cases topic <;> decide

/-- Of two topics neither beginning opens the other, or neither end closes the other. -/
theorem eq_or_apart (first second : Topic) : first = second ∨
    (¬ first.front.toList <+: second.front.toList ∧ ¬ second.front.toList <+: first.front.toList) ∨
    (¬ first.back.toList <:+ second.back.toList ∧ ¬ second.back.toList <:+ first.back.toList) := by
  have all : ∀ first ∈ order, ∀ second ∈ order, first = second ∨
      (¬ first.front.toList <+: second.front.toList ∧
        ¬ second.front.toList <+: first.front.toList) ∨
      (¬ first.back.toList <:+ second.back.toList ∧
        ¬ second.back.toList <:+ first.back.toList) := by decide +kernel
  exact all first (mem_order first) second (mem_order second)

/-- A warning is about one topic at most. -/
theorem eq_of_marks (first second : Topic) (warning : String) (one : first.Marks warning)
    (other : second.Marks warning) : first = second := by
  rcases eq_or_apart first second with same | ⟨opens, opened⟩ | ⟨closes, closed⟩
  · exact same
  · rcases List.prefix_or_prefix_of_prefix one.1 other.1 with begins | begins
    · exact absurd begins opens
    · exact absurd begins opened
  · rcases List.suffix_or_suffix_of_suffix one.2 other.2 with ends | ends
    · exact absurd ends closes
    · exact absurd ends closed

end Topic

/-- What stands at the front of a text stays there when the text goes on. -/
theorem front_append (front start rest : String) (begins : front.toList <+: start.toList) :
    front.toList <+: (start ++ rest).toList := by
  rw [String.toList_append]
  exact begins.trans (List.prefix_append _ _)

/-- What stands at the back of a text stays there when something comes before. -/
theorem back_append (back start rest : String) (ends : back.toList <:+ rest.toList) :
    back.toList <:+ (start ++ rest).toList := by
  rw [String.toList_append]
  exact ends.trans (List.suffix_append _ _)

variable (rules : Rules) (post : Post)

/-- The part of the check that gives the warnings about a topic. -/
def check : Topic → Except Fault (List String)
  | .link => .ok (linkWarnings rules post)
  | .tags => .ok (tagWarnings rules post)
  | .title => lengthWarnings "Title" post.title rules.maxTitleLength
  | .body => lengthWarnings "Body" post.body rules.maxBodyLength
  | .flair => .ok (flairWarnings rules post)
  | .karma => karmaWarnings rules.manualFlags
  | .age => ageWarnings rules.manualFlags
  | .verification => .ok (verificationWarnings rules.manualFlags)
  | .votes => .ok (voteWarnings post)

/-- All warnings are those about each topic, one topic after the other. -/
theorem exists_told (noted : List String) (written : warnings rules post = .ok noted) :
    ∃ told : Topic → List String, (∀ topic, check rules post topic = .ok (told topic)) ∧
      noted = Topic.order.flatMap told := by
  simp only [warnings, bind_eq_ok_iff] at written
  obtain ⟨title, titled, body, bodied, karma, required, age, aged, same⟩ := written
  let told : Topic → List String
    | .link => linkWarnings rules post
    | .tags => tagWarnings rules post
    | .title => title
    | .body => body
    | .flair => flairWarnings rules post
    | .karma => karma
    | .age => age
    | .verification => verificationWarnings rules.manualFlags
    | .votes => voteWarnings post
  refine ⟨told, ?_, ?_⟩
  · intro topic
    cases topic with
    | title => exact titled
    | body => exact bodied
    | karma => exact required
    | age => exact aged
    | _ => rfl
  · rw [← Except.ok.inj same]
    simp only [Topic.order, List.flatMap_cons, List.flatMap_nil, List.append_nil, List.append_assoc,
      told]

/-- Warnings about the length of a part begin with its name. -/
theorem lengthWarnings_front (part text : String) (most : Option Int) (told : List String)
    (given : lengthWarnings part text most = .ok told) :
    ∀ warning ∈ told, (part ++ " too long: ").toList <+: warning.toList := by
  unfold lengthWarnings at given
  split at given
  · obtain rfl := Except.ok.inj given
    exact fun _ member => absurd member List.not_mem_nil
  · split at given
    · obtain ⟨limit, -, same⟩ := (bind_eq_ok_iff _ _ _).mp given
      obtain rfl := Except.ok.inj same
      intro warning member
      obtain rfl := List.mem_singleton.mp member
      iterate 4 apply front_append
      exact List.prefix_refl _
    · obtain rfl := Except.ok.inj given
      exact fun _ member => absurd member List.not_mem_nil

/-- The warnings of each part of the check are about its topic. -/
theorem marks_of_check (topic : Topic) (told : List String)
    (given : check rules post topic = .ok told) : ∀ warning ∈ told, topic.Marks warning := by
  cases topic with
  | link =>
    obtain rfl := Except.ok.inj given
    unfold linkWarnings
    split <;> decide
  | tags =>
    obtain rfl := Except.ok.inj given
    unfold tagWarnings
    dsimp only
    split
    · decide
    · intro warning member
      obtain rfl := List.mem_singleton.mp member
      exact ⟨front_append _ _ _ (by decide), List.nil_suffix⟩
  | title =>
    intro warning member
    have begins := lengthWarnings_front _ _ _ told given warning member
    exact ⟨List.IsPrefix.trans (by decide) begins, List.nil_suffix⟩
  | body =>
    intro warning member
    have begins := lengthWarnings_front _ _ _ told given warning member
    exact ⟨List.IsPrefix.trans (by decide) begins, List.nil_suffix⟩
  | flair =>
    obtain rfl := Except.ok.inj given
    unfold flairWarnings
    split <;> decide
  | karma =>
    simp only [check, karmaWarnings] at given
    split at given
    · obtain rfl := Except.ok.inj given
      decide
    · split at given
      · obtain rfl := Except.ok.inj given
        decide
      · obtain ⟨least, -, same⟩ := (bind_eq_ok_iff _ _ _).mp given
        obtain rfl := Except.ok.inj same
        intro warning member
        obtain rfl := List.mem_singleton.mp member
        refine ⟨?_, back_append _ _ _ (by decide)⟩
        iterate 2 apply front_append
        decide
  | age =>
    simp only [check, ageWarnings] at given
    split at given
    · obtain rfl := Except.ok.inj given
      decide
    · split at given
      · obtain rfl := Except.ok.inj given
        decide
      · -- Months or days: the two warnings begin and end alike.
        split at given
        all_goals
          obtain ⟨age, -, same⟩ := (bind_eq_ok_iff _ _ _).mp given
          obtain rfl := Except.ok.inj same
          intro warning member
          obtain rfl := List.mem_singleton.mp member
          refine ⟨?_, back_append _ _ _ (by decide)⟩
          iterate 2 apply front_append
          decide
  | verification =>
    obtain rfl := Except.ok.inj given
    unfold verificationWarnings
    split <;> decide
  | votes =>
    obtain rfl := Except.ok.inj given
    unfold voteWarnings
    dsimp only
    split <;> decide

/-- A verdict that warns of a topic. -/
def WarnsOf (topic : Topic) (result : LintResult) : Prop :=
  ∃ warning ∈ result.warnings, topic.Marks warning

instance (topic : Topic) (result : LintResult) : Decidable (WarnsOf topic result) :=
  inferInstanceAs (Decidable (∃ warning ∈ result.warnings, topic.Marks warning))

/-- A verdict warns of a topic exactly when the part of the check that is about it has found
something. -/
theorem warnsOf_iff {platform : Pattern.Platform} (topic : Topic) (result : LintResult)
    (given : evaluate platform rules post = .ok result) (told : List String) (checked : check rules post topic = .ok told) :
    WarnsOf topic result ↔ told ≠ [] := by
  obtain ⟨found, noted, -, written, rfl⟩ := (evaluate_eq_ok_iff rules post result).mp given
  obtain ⟨all, parts, rfl⟩ := exists_told rules post noted written
  obtain rfl : told = all topic := Except.ok.inj (checked.symm.trans (parts topic))
  constructor
  · rintro ⟨warning, member, marked⟩
    obtain ⟨other, -, within⟩ := List.mem_flatMap.mp member
    have about := marks_of_check rules post other (all other) (parts other) warning within
    obtain rfl := Topic.eq_of_marks topic other warning marked about
    exact List.ne_nil_of_mem within
  · intro some
    obtain ⟨warning, member⟩ := List.exists_mem_of_ne_nil _ some
    exact ⟨warning, List.mem_flatMap.mpr ⟨topic, topic.mem_order, member⟩,
      marks_of_check rules post topic (all topic) (parts topic) warning member⟩

/-- When a verdict is given, every part of the check has come to its end. -/
theorem exists_check {platform : Pattern.Platform} (topic : Topic) (result : LintResult)
    (given : evaluate platform rules post = .ok result) : ∃ told, check rules post topic = .ok told := by
  obtain ⟨found, noted, -, written, rfl⟩ := (evaluate_eq_ok_iff rules post result).mp given
  obtain ⟨all, parts, -⟩ := exists_told rules post noted written
  exact ⟨all topic, parts topic⟩

end Rulebook.Lint
