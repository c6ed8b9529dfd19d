import Rulebook.Proofs.Growth
import Rulebook.Proofs.Terms

/-!
# Rules in another order

The order in which rules are published decides little. It decides which of several stated limits
counts, as the first one does, in which spelling a term or tag is kept that is stated more than
once, and where it stands in its list. All else that rules compile to is the same in any order: the
policy on links, whether flair is required, which terms are banned and which tags are required when
the case of letters does not count, and everything that comes from the wiki page.

A limit that is stated in one order is stated in every order, if not with the same value. Nor does
the order decide whether rules can be read at all, or why not.
-/

namespace Rulebook

namespace Text

/-- The keys of what stays are the keys of all entries that are not blank. -/
theorem mem_keys_dedupe_iff (entries : List String) (key : String) :
    key ∈ (dedupe entries).map lowered ↔ key ≠ "" ∧ ∃ entry ∈ entries, entryKey entry = key := by
  constructor
  · intro listed
    obtain ⟨kept, member, rfl⟩ := List.mem_map.mp listed
    obtain ⟨entry, found, visible, rfl⟩ := (mem_dedupe_iff entries kept).mp member
    exact ⟨visible, entry, List.mem_of_find?_eq_some found, rfl⟩
  · rintro ⟨visible, entry, member, rfl⟩
    obtain ⟨first, -, same, kept⟩ := exists_kept entries entry member visible
    exact List.mem_map.mpr ⟨trimmed first, kept, same⟩

/-- Entries in another order leave the same keys behind, each of them once. -/
theorem keys_dedupe_perm (entries others : List String) (permuted : entries.Perm others) :
    ((dedupe entries).map lowered).Perm ((dedupe others).map lowered) := by
  have once (entries : List String) : ((dedupe entries).map lowered).Nodup :=
    (nodup_dedupeAfter [] entries).1
  apply (List.perm_ext_iff_of_nodup (once entries) (once others)).mpr
  intro key
  simp only [mem_keys_dedupe_iff, permuted.mem_iff]

end Text

namespace LinkPolicy

/-- Of two policies in either order the same one is the stricter. -/
theorem stricter_comm (p q : LinkPolicy) : p.stricter q = q.stricter p := by
  apply strictness_injective
  rw [strictness_stricter, strictness_stricter, Nat.max_comm]

/-- The strictest of several policies does not depend on their order. -/
theorem strictest_perm (policies others : List (Option LinkPolicy))
    (permuted : policies.Perm others) : strictest policies = strictest others := by
  have split (first : Option LinkPolicy) (rest : List (Option LinkPolicy)) :
      strictest (first :: rest) = (strictest [first]).stricter (strictest rest) :=
    strictest_append [first] rest
  induction permuted with
  | nil => rfl
  | cons first _ inductionHypothesis => rw [split, inductionHypothesis, ← split]
  | swap first second rest =>
    calc strictest (second :: first :: rest)
        = (strictest [second]).stricter ((strictest [first]).stricter (strictest rest)) := by
          rw [split second (first :: rest), split first rest]
      _ = (strictest [first]).stricter ((strictest [second]).stricter (strictest rest)) := by
          rw [← stricter_assoc, stricter_comm (strictest [second]), stricter_assoc]
      _ = strictest (first :: second :: rest) := by
          rw [← split second rest, ← split first (second :: rest)]
  | trans _ _ before after => exact before.trans after

end LinkPolicy

/-- Items in another order are read when they are in one, and to values in another order. -/
theorem mapM_perm {α β ε : Type} (read : α → Except ε β) (items others : List α)
    (permuted : items.Perm others) (values : List β) (given : items.mapM read = .ok values) :
    ∃ reordered, others.mapM read = .ok reordered ∧ values.Perm reordered := by
  induction permuted generalizing values with
  | nil => exact ⟨values, given, .refl _⟩
  | cons item _ inductionHypothesis =>
    rw [List.mapM_cons] at given
    obtain ⟨value, first, behind⟩ := (bind_eq_ok_iff _ _ _).mp given
    obtain ⟨rest, others, whole⟩ := (bind_eq_ok_iff _ _ _).mp behind
    obtain rfl := Except.ok.inj whole
    obtain ⟨reordered, given, permuted⟩ := inductionHypothesis rest others
    refine ⟨value :: reordered, ?_, permuted.cons value⟩
    rw [List.mapM_cons, first, given]
    rfl
  | swap first second rest =>
    simp only [List.mapM_cons, bind_eq_ok_iff] at given
    obtain ⟨b, readSecond, behind, ⟨a, readFirst, remaining, readRest, rest⟩, whole⟩ := given
    obtain rfl := Except.ok.inj rest
    obtain rfl := Except.ok.inj whole
    refine ⟨a :: b :: remaining, ?_, .swap a b remaining⟩
    simp only [List.mapM_cons, readFirst, readSecond, readRest]
    rfl
  | trans _ _ before after =>
    obtain ⟨between, given, first⟩ := before values given
    obtain ⟨reordered, given, second⟩ := after between given
    exact ⟨reordered, given, first.trans second⟩

namespace Rules

/-- Rules that differ in nothing but the order and the spelling of list entries and the values of
limits. -/
structure Rearranges (p q : Rules) : Prop where
  bannedWords : (p.bannedWords.map Text.lowered).Perm (q.bannedWords.map Text.lowered)
  titleRegexes : p.titleRegexes = q.titleRegexes
  bodyRegexes : p.bodyRegexes = q.bodyRegexes
  linkPolicy : p.linkPolicy = q.linkPolicy
  flairRequired : p.flairRequired = q.flairRequired
  requiredTags : (p.requiredTags.map Text.lowered).Perm (q.requiredTags.map Text.lowered)
  maxTitleLength : p.maxTitleLength.isSome = q.maxTitleLength.isSome
  maxBodyLength : p.maxBodyLength.isSome = q.maxBodyLength.isSome
  manualFlags : p.manualFlags = q.manualFlags
  wikiNotes : p.wikiNotes = q.wikiNotes

/-- Whether any rule states a limit does not depend on the order of the rules. -/
theorem isSome_findSome?_perm (limit : Statement → Option Nat) (statements others : List Statement)
    (permuted : statements.Perm others) :
    ((statements.findSome? limit).map Int.ofNat).isSome =
      ((others.findSome? limit).map Int.ofNat).isSome := by
  rw [Option.isSome_map, Option.isSome_map, Bool.eq_iff_iff, List.findSome?_isSome_iff,
    List.findSome?_isSome_iff]
  simp only [permuted.mem_iff]

/-- What rules compile to in one order rearranges what they compile to in another. -/
theorem rearranges_compile (statements others : List Statement) (wiki : String)
    (permuted : statements.Perm others) :
    (compile statements wiki).Rearranges (compile others wiki) where
  bannedWords := Text.keys_dedupe_perm _ _ (permuted.flatMap_right _)
  titleRegexes := rfl
  bodyRegexes := rfl
  linkPolicy := LinkPolicy.strictest_perm _ _ (permuted.map _)
  flairRequired := permuted.any_eq
  requiredTags := Text.keys_dedupe_perm _ _ (permuted.flatMap_right _)
  maxTitleLength := isSome_findSome?_perm _ _ _ permuted
  maxBodyLength := isSome_findSome?_perm _ _ _ permuted
  manualFlags := rfl
  wikiNotes := rfl

end Rules

/-- An object that is not read as a rule holds a number that cannot be shown. -/
theorem fault_of_ofJson (fields : List (String × Json)) (fault : Fault)
    (refused : Statement.ofJson (.obj fields) = .error fault) : fault = .unconvertible := by
  have ofField (key : String) (fault : Fault) (refused : Json.fieldText fields key = .error fault) :
      fault = .unconvertible := by
    unfold Json.fieldText at refused
    split at refused
    · cases refused
    · split at refused
      · cases refused
      · split at refused
        · cases refused
        · exact (Except.error.inj refused).symm
  cases name : Json.fieldText fields "short_name" with
  | error cause =>
    rw [Statement.ofJson, name] at refused
    exact Except.error.inj refused ▸ ofField "short_name" cause name
  | ok _ =>
    cases description : Json.fieldText fields "description" with
    | error cause =>
      rw [Statement.ofJson, name, description] at refused
      exact Except.error.inj refused ▸ ofField "description" cause description
    | ok _ =>
      rw [Statement.ofJson, name, description] at refused
      cases refused

/-- Nor are several objects refused for another reason. -/
theorem fault_of_mapM_ofJson (rules : List Json)
    (objects : ∀ rule ∈ rules, ∃ fields, rule = .obj fields) (fault : Fault)
    (refused : rules.mapM Statement.ofJson = .error fault) : fault = .unconvertible := by
  induction rules with
  | nil => cases refused
  | cons rule rest inductionHypothesis =>
    rw [List.forall_mem_cons] at objects
    obtain ⟨⟨fields, rfl⟩, others⟩ := objects
    rw [List.mapM_cons] at refused
    cases first : Statement.ofJson (.obj fields) with
    | error cause =>
      rw [first] at refused
      exact Except.error.inj refused ▸ fault_of_ofJson fields cause first
    | ok statement =>
      cases behind : rest.mapM Statement.ofJson with
      | error cause =>
        rw [first, behind] at refused
        obtain rfl : cause = fault := Except.error.inj refused
        exact inductionHypothesis others behind
      | ok statements =>
        rw [first, behind] at refused
        cases refused

namespace Gathered

/-- The order of published rules matters for limits, spellings and places in lists alone.

For every list of objects, in any other order, and for every wiki page, either both orders compile,
to rules of which one rearranges the other, or neither does, for the same reason. Objects whose
numbers can be written compile in every order. -/
theorem order_decides_little (rules shuffled : List Json) (wiki : Json)
    (objects : ∀ rule ∈ rules, ∃ fields, rule = .obj fields) (permuted : rules.Perm shuffled) :
    ((∃ p q, compile ⟨rules, wiki⟩ = .ok p ∧ compile ⟨shuffled, wiki⟩ = .ok q ∧ p.Rearranges q) ∨
      (compile ⟨rules, wiki⟩ = .error .unconvertible ∧
        compile ⟨shuffled, wiki⟩ = .error .unconvertible)) ∧
      (ArePublished rules → ∃ p, compile ⟨rules, wiki⟩ = .ok p) := by
  constructor
  · cases read : rules.mapM Statement.ofJson with
    | ok statements =>
      obtain ⟨others, alsoRead, reordered⟩ := mapM_perm _ _ _ permuted _ read
      exact Or.inl ⟨_, _, (bind_eq_ok_iff _ _ _).mpr ⟨statements, read, rfl⟩,
        (bind_eq_ok_iff _ _ _).mpr ⟨others, alsoRead, rfl⟩,
        Rules.rearranges_compile statements others _ reordered⟩
    | error fault =>
      obtain rfl := fault_of_mapM_ofJson rules objects fault read
      refine Or.inr ⟨by rw [compile, read]; rfl, ?_⟩
      cases alsoRead : shuffled.mapM Statement.ofJson with
      | ok others =>
        obtain ⟨statements, given, -⟩ := mapM_perm _ _ _ permuted.symm _ alsoRead
        rw [read] at given
        cases given
      | error other =>
        have alsoObjects : ∀ rule ∈ shuffled, ∃ fields, rule = .obj fields := by
          intro rule member
          exact objects rule (permuted.mem_iff.mpr member)
        obtain rfl := fault_of_mapM_ofJson shuffled alsoObjects other alsoRead
        rw [compile, alsoRead]
        rfl
  · intro published
    obtain ⟨statements, read⟩ := exists_statements rules published
    exact ⟨_, (bind_eq_ok_iff _ _ _).mpr ⟨statements, read, rfl⟩⟩

/-- A rule with a limit for titles and a tag. -/
def strictRule : Json :=
  .obj [("short_name", .str "Titles"), ("description", .str "Title max 80 characters. Use [OC]")]

/-- A rule with another limit, the same tag in small letters, and no links. -/
def laxRule : Json :=
  .obj [("short_name", .str "No links"),
    ("description", .str "No links. Title max 100 characters, [oc]")]

/-- In the other order the other limit counts, and the tag is spelled the other way. -/
theorem either_order_asks_the_same :
    (∀ rule ∈ [strictRule, laxRule], ∃ fields, rule = .obj fields) ∧
      [strictRule, laxRule].Perm [laxRule, strictRule] ∧
      ∃ p q, compile ⟨[strictRule, laxRule], .str ""⟩ = .ok p ∧
        compile ⟨[laxRule, strictRule], .str ""⟩ = .ok q ∧ p.Rearranges q ∧
        p.maxTitleLength = some 80 ∧ q.maxTitleLength = some 100 ∧
        p.requiredTags = ["[OC]"] ∧ q.requiredTags = ["[oc]"] ∧ q.linkPolicy = .noLink := by
  have objects : ∀ rule ∈ [strictRule, laxRule], ∃ fields, rule = .obj fields := by
    intro rule member
    simp only [List.mem_cons, List.not_mem_nil, or_false] at member
    rcases member with rfl | rfl
    · exact ⟨_, rfl⟩
    · exact ⟨_, rfl⟩
  have permuted : [strictRule, laxRule].Perm [laxRule, strictRule] := .swap _ _ _
  have law := (order_decides_little [strictRule, laxRule] [laxRule, strictRule] (.str "") objects
    permuted).1
  rcases law with ⟨p, q, first, second, rearranged⟩ | ⟨refused, -⟩
  · refine ⟨objects, permuted, p, q, first, second, rearranged, ?_⟩
    obtain rfl := Except.ok.inj first
    obtain rfl := Except.ok.inj second
    decide +kernel
  · cases refused

end Gathered

end Rulebook
