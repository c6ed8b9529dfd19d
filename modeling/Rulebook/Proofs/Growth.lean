import Mathlib.Data.List.Induction
import Rulebook.Proofs.Storable
import Rulebook.Proofs.Store
import Rulebook.Sync.One

/-!
# Growing lists of rules

Every published rule contributes to every field of the compiled rules, and every field has its own
way to put contributions together: terms and tags are listed and repetitions dropped, the stricter
policy wins, one rule that requires flair is enough, and the first stated limit is kept. All of these
are joins: the two parts of a list are compiled apart, and their join is what the whole list compiles
to. A join only adds to its first part, so rules that are published behind others never take anything
back.

That holds for additions at the end. A rule in front may replace a limit, and its spelling of a term
or tag stands for the later ones.
-/

namespace Rulebook

namespace Text

/-- An entry that is blank or has been seen is skipped. -/
theorem dedupeAfter_cons_of_known (seen : List String) (entry : String) (rest : List String)
    (known : entryKey entry = "" ∨ entryKey entry ∈ seen) :
    dedupeAfter seen (entry :: rest) = dedupeAfter seen rest := by
  simp [dedupeAfter, known]

/-- An entry that is neither stays, and its key has been seen from there on. -/
theorem dedupeAfter_cons_of_new (seen : List String) (entry : String) (rest : List String)
    (visible : entryKey entry ≠ "") (new : entryKey entry ∉ seen) :
    dedupeAfter seen (entry :: rest) =
      trimmed entry :: dedupeAfter (entryKey entry :: seen) rest := by
  simp [dedupeAfter, visible, new]

/-- Which keys have been seen matters, not in which order or how often. -/
theorem dedupeAfter_congr (seen other entries : List String)
    (same : ∀ key, key ∈ seen ↔ key ∈ other) :
    dedupeAfter seen entries = dedupeAfter other entries := by
  induction entries generalizing seen other with
  | nil => rfl
  | cons entry rest inductionHypothesis =>
    have known : seen.contains (entryKey entry) = other.contains (entryKey entry) := by
      rw [Bool.eq_iff_iff, List.contains_iff_mem, List.contains_iff_mem, same]
    have later := inductionHypothesis (entryKey entry :: seen) (entryKey entry :: other)
      fun key => by rw [List.mem_cons, List.mem_cons, same]
    simp only [dedupeAfter, known, inductionHypothesis seen other same, later]

/-- More keys that have been seen drop the entries with these keys and no others. -/
theorem dedupeAfter_append_seen (seen more entries : List String) :
    dedupeAfter (seen ++ more) entries =
      (dedupeAfter more entries).filter fun kept => lowered kept ∉ seen := by
  induction entries generalizing more with
  | nil => rfl
  | cons entry rest inductionHypothesis =>
    by_cases skipped : entryKey entry = "" ∨ entryKey entry ∈ more
    · rw [dedupeAfter_cons_of_known more entry rest skipped, ← inductionHypothesis]
      exact dedupeAfter_cons_of_known _ entry rest
        (skipped.imp_right fun late => List.mem_append_right seen late)
    · obtain ⟨visible, new⟩ := not_or.mp skipped
      rw [dedupeAfter_cons_of_new more entry rest visible new, List.filter_cons,
        ← inductionHypothesis]
      by_cases early : entryKey entry ∈ seen
      · -- The new keys drop the entry itself, and its key drops nothing that they leave.
        rw [dedupeAfter_cons_of_known _ entry rest (Or.inr (List.mem_append_left more early)),
          if_neg (by simpa [entryKey] using early)]
        refine dedupeAfter_congr _ _ rest fun key => ?_
        rw [List.mem_append, List.mem_append, List.mem_cons, or_left_comm]
        exact ⟨Or.inr, fun either => either.elim (fun here => Or.inl (here ▸ early)) id⟩
      · have unseen : entryKey entry ∉ seen ++ more := by
          rw [List.mem_append, not_or]
          exact ⟨early, new⟩
        rw [dedupeAfter_cons_of_new _ entry rest visible unseen,
          if_pos (by simpa [entryKey] using early)]
        congr 1
        refine dedupeAfter_congr _ _ rest fun key => ?_
        rw [List.mem_cons, List.mem_append, List.mem_append, List.mem_cons, or_left_comm]

/-- Entries behind others are gone through with the keys of those that stay in front. -/
theorem dedupeAfter_append (seen first second : List String) :
    dedupeAfter seen (first ++ second) = dedupeAfter seen first ++
      dedupeAfter ((dedupeAfter seen first).map lowered ++ seen) second := by
  induction first generalizing seen with
  | nil => rfl
  | cons entry rest inductionHypothesis =>
    rw [List.cons_append, dedupeAfter, dedupeAfter]
    split
    · exact inductionHypothesis seen
    · rw [inductionHypothesis, List.cons_append, List.map_cons]
      congr 2
      refine dedupeAfter_congr _ _ second fun key => ?_
      simp only [List.mem_append, List.mem_cons, entryKey, or_left_comm]
      exact or_assoc.symm

/-- The entries of a list and, behind them, those of another that the first does not have in any
case. -/
def joined (first second : List String) : List String :=
  first ++ second.filter fun entry => lowered entry ∉ first.map lowered

/-- Removing repetitions commutes with appending. -/
theorem dedupe_append (first second : List String) :
    dedupe (first ++ second) = joined (dedupe first) (dedupe second) := by
  rw [dedupe, dedupeAfter_append, dedupeAfter_append_seen]
  rfl

end Text

namespace LinkPolicy

/-- The stricter one of several policies does not depend on how they are taken together. -/
theorem stricter_assoc (p q r : LinkPolicy) :
    (p.stricter q).stricter r = p.stricter (q.stricter r) := by
  cases p <;> cases q <;> cases r <;> rfl

/-- A policy is stricter than none. -/
theorem stricter_unknown (p : LinkPolicy) : p.stricter .unknown = p := by cases p <;> rfl

/-- The last policy of a list makes its strictest one stricter, if it has a say. -/
theorem strictest_concat (policies : List (Option LinkPolicy)) (last : Option LinkPolicy) :
    strictest (policies ++ [last]) = (strictest policies).stricter (last.getD .unknown) := by
  cases last with
  | none => rw [strictest, List.foldl_append, ← strictest, Option.getD_none, stricter_unknown]; rfl
  | some policy => rw [strictest, List.foldl_append, ← strictest]; rfl

/-- The strictest of two lists of policies is the stricter of the strictest ones. -/
theorem strictest_append (first second : List (Option LinkPolicy)) :
    strictest (first ++ second) = (strictest first).stricter (strictest second) := by
  induction second using List.reverseRecOn with
  | nil => rw [List.append_nil]; exact (stricter_unknown _).symm
  | append_singleton rest last inductionHypothesis =>
    rw [← List.append_assoc, strictest_concat, strictest_concat, inductionHypothesis,
      stricter_assoc]

end LinkPolicy

namespace Rules

/-- The join of rules that were compiled apart, with the requirements of the first. -/
def join (first second : Rules) : Rules where
  bannedWords := Text.joined first.bannedWords second.bannedWords
  titleRegexes := first.titleRegexes
  bodyRegexes := first.bodyRegexes
  linkPolicy := first.linkPolicy.stricter second.linkPolicy
  flairRequired := first.flairRequired || second.flairRequired
  requiredTags := Text.joined first.requiredTags second.requiredTags
  maxTitleLength := first.maxTitleLength.or second.maxTitleLength
  maxBodyLength := first.maxBodyLength.or second.maxBodyLength
  manualFlags := first.manualFlags
  wikiNotes := first.wikiNotes

/-- Two lists of rules with the same wiki page compile to the join of what each compiles to. -/
theorem compile_append (first second : List Statement) (wiki : String) :
    compile (first ++ second) wiki = (compile first wiki).join (compile second wiki) := by
  simp only [compile, join, List.flatMap_append, Text.dedupe_append, List.map_append,
    LinkPolicy.strictest_append, List.any_append, List.findSome?_append, Option.map_or]

/-- Rules that take nothing back of others: they list the same banned words and tags first, are as
strict on links and flair, keep every limit that is stated, and ask the same of posters. -/
structure IsExtendedBy (p q : Rules) : Prop where
  bannedWords : p.bannedWords <+: q.bannedWords
  requiredTags : p.requiredTags <+: q.requiredTags
  linkPolicy : p.linkPolicy.strictness ≤ q.linkPolicy.strictness
  flairRequired : p.flairRequired = true → q.flairRequired = true
  maxTitleLength : ∀ most, p.maxTitleLength = some most → q.maxTitleLength = some most
  maxBodyLength : ∀ most, p.maxBodyLength = some most → q.maxBodyLength = some most
  manualFlags : p.manualFlags = q.manualFlags
  wikiNotes : p.wikiNotes = q.wikiNotes

/-- A join takes nothing back of its first part. -/
theorem isExtendedBy_join (p q : Rules) : p.IsExtendedBy (p.join q) where
  bannedWords := List.prefix_append _ _
  requiredTags := List.prefix_append _ _
  linkPolicy := by
    rw [join, LinkPolicy.strictness_stricter]
    exact Nat.le_max_left _ _
  flairRequired := by
    intro required
    rw [join, required, Bool.true_or]
  maxTitleLength := by
    intro most stated
    rw [join, stated, Option.some_or]
  maxBodyLength := by
    intro most stated
    rw [join, stated, Option.some_or]
  manualFlags := rfl
  wikiNotes := rfl

end Rules

namespace Gathered

/-- Rules that are published behind others take nothing back.

Whenever a list of rules with more rules behind it compiles, it compiles without them, and the
longer list extends the shorter one: terms and tags stay in front and in order, the policy on links
and the requirement of flair never become milder, a stated limit stays the same, and what the wiki
page says is not touched. Objects whose numbers can be written always compile. -/
theorem more_rules_extend (rules more : List Json) (wiki : Json) :
    (ArePublished (rules ++ more) → ∃ q, compile ⟨rules ++ more, wiki⟩ = .ok q) ∧
      ∀ q, compile ⟨rules ++ more, wiki⟩ = .ok q →
        ∃ p, compile ⟨rules, wiki⟩ = .ok p ∧ p.IsExtendedBy q := by
  constructor
  · intro published
    obtain ⟨statements, read⟩ := exists_statements _ published
    exact ⟨_, (bind_eq_ok_iff _ _ _).mpr ⟨statements, read, rfl⟩⟩
  · intro q compiled
    obtain ⟨statements, read, same⟩ := (bind_eq_ok_iff _ _ _).mp compiled
    obtain rfl := Except.ok.inj same
    rw [List.mapM_append] at read
    obtain ⟨first, readFirst, behind⟩ := (bind_eq_ok_iff _ _ _).mp read
    obtain ⟨second, -, whole⟩ := (bind_eq_ok_iff _ _ _).mp behind
    obtain rfl := Except.ok.inj whole
    refine ⟨_, (bind_eq_ok_iff _ _ _).mpr ⟨first, readFirst, rfl⟩, ?_⟩
    rw [Rules.compile_append]
    exact Rules.isExtendedBy_join _ _

/-- A rule that bans a word and requires a tag. -/
def openingRule : Json :=
  .obj [("short_name", .str "Banned"), ("description", .str "Banned: spam. Use [OC]")]

/-- A rule that bans the word again and another one, and requires the tag in small letters. -/
def closingRule : Json :=
  .obj [("short_name", .str "Banned"), ("description", .str "Banned: SPAM, ham. Use [oc]")]

/-- The second rule adds one word to what the first one has stated. -/
theorem closing_rule_extends :
    ArePublished ([openingRule] ++ [closingRule]) ∧
      ∃ p q, compile ⟨[openingRule], .str ""⟩ = .ok p ∧
        compile ⟨[openingRule] ++ [closingRule], .str ""⟩ = .ok q ∧ p.IsExtendedBy q ∧
        q.bannedWords = ["spam", "ham"] ∧ q.requiredTags = ["[OC]"] := by
  have published : ArePublished ([openingRule] ++ [closingRule]) := by
    intro rule member
    simp only [List.singleton_append, List.mem_cons, List.not_mem_nil, or_false] at member
    rcases member with rfl | rfl
    · exact ⟨_, rfl, rfl⟩
    · exact ⟨_, rfl, rfl⟩
  obtain ⟨compiles, grown⟩ := more_rules_extend [openingRule] [closingRule] (.str "")
  obtain ⟨q, second⟩ := compiles published
  obtain ⟨p, first, extended⟩ := grown q second
  refine ⟨published, p, q, first, second, extended, ?_⟩
  obtain rfl := Except.ok.inj second
  decide +kernel

end Gathered

end Rulebook
