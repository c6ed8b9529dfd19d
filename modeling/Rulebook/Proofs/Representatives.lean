import Rulebook.Proofs.Growth
import Rulebook.Proofs.Places
import Rulebook.Proofs.Terms

/-!
# One entry for each key

Removing repetitions goes through the entries with the keys seen so far. What that amounts to is told
by places: an entry stays when it is not blank and no entry in front of it has its key, and what stays
keeps its order. Everything else follows from there. Each key that is not blank is represented once,
by its first entry. A list in which nothing is repeated is left as it is, and so removing repetitions
again changes nothing; and entries that repeat others of the list have no place of their own.

Keys are compared after trimming and lowering, while what stays is only trimmed. It has the same key
nevertheless, for trimming twice is trimming once.
-/

namespace Rulebook.Text

/-- Trimming does not change the key of an entry. -/
theorem entryKey_trimmed (entry : String) : entryKey (trimmed entry) = entryKey entry := by
  rw [entryKey, trimmed_trimmed, entryKey]

/-- The key of an entry is blank when nothing of the entry is left by trimming. -/
theorem entryKey_eq_empty_iff (entry : String) : entryKey entry = "" ↔ trimmed entry = "" := by
  rw [entryKey, lowered, ← String.toList_eq_nil_iff, String.toList_ofList, lower_eq_nil_iff,
    String.toList_eq_nil_iff]

/-- An entry that is not blank and stands behind no other with its key. -/
structure IsFirst (stands : Nat → String → Prop) (place : Nat) (entry : String) : Prop where
  stood : stands place entry
  visible : entryKey entry ≠ ""
  new : ∀ earlier other, earlier < place → stands earlier other → entryKey other ≠ entryKey entry

/-- What stays stands, trimmed, at the places of the first entries. -/
def StaysAt (stands : Nat → String → Prop) (place : Nat) (text : String) : Prop :=
  ∃ entry, IsFirst stands place entry ∧ text = trimmed entry

section Places

variable {stands : Nat → String → Prop} {place : Nat} {entry text : String}

/-- Every entry that is not blank is preceded by a first one with its key, or is one. -/
theorem exists_isFirst (stood : stands place entry) (visible : entryKey entry ≠ "") :
    ∃ start first, IsFirst stands start first ∧ entryKey first = entryKey entry := by
  induction place using Nat.strongRecOn generalizing entry with
  | ind place inductionHypothesis =>
    by_cases repeated : ∃ earlier other, earlier < place ∧ stands earlier other ∧
        entryKey other = entryKey entry
    · obtain ⟨earlier, other, before, alsoStood, same⟩ := repeated
      rw [← same] at visible ⊢
      exact inductionHypothesis earlier before alsoStood visible
    · refine ⟨place, entry, ⟨stood, visible, ?_⟩, rfl⟩
      intro earlier other before alsoStood same
      exact repeated ⟨earlier, other, before, alsoStood, same⟩

/-- What stays is trimmed and not blank. -/
theorem StaysAt.tidy (stays : StaysAt stands place text) :
    trimmed text = text ∧ entryKey text ≠ "" := by
  obtain ⟨entry, isFirst, rfl⟩ := stays
  rw [trimmed_trimmed, entryKey_trimmed]
  exact ⟨rfl, isFirst.visible⟩

/-- What stays further in front has another key. -/
theorem StaysAt.key_ne {later : Nat} {next : String} (stays : StaysAt stands place text)
    (alsoStays : StaysAt stands later next) (before : place < later) :
    entryKey text ≠ entryKey next := by
  obtain ⟨entry, isFirst, rfl⟩ := stays
  obtain ⟨other, isNext, rfl⟩ := alsoStays
  rw [entryKey_trimmed, entryKey_trimmed]
  exact isNext.new place entry before isFirst.stood

end Places

/-- Entries with their places stand there. -/
def StandsIn (placed : List (String × Nat)) (place : Nat) (entry : String) : Prop :=
  (entry, place) ∈ placed

/-- Of entries in order the one in front is first, if it is not blank, and so are those that are
first behind it and have another key. -/
theorem isFirst_cons_iff (first : String) (start : Nat) (rest : List (String × Nat))
    (behind : ∀ next ∈ rest, start < next.2) (place : Nat) (entry : String) :
    IsFirst (StandsIn ((first, start) :: rest)) place entry ↔
      (place = start ∧ entry = first ∧ entryKey first ≠ "") ∨
        (IsFirst (StandsIn rest) place entry ∧ entryKey first ≠ entryKey entry) := by
  constructor
  · rintro ⟨stood, visible, new⟩
    rcases List.mem_cons.mp stood with same | later
    · obtain ⟨rfl, rfl⟩ := Prod.mk.inj same
      exact .inl ⟨rfl, rfl, visible⟩
    · refine .inr ⟨⟨later, visible, ?_⟩, new start first (behind _ later) List.mem_cons_self⟩
      intro earlier other before alsoStood
      exact new earlier other before (List.mem_cons_of_mem _ alsoStood)
  · rintro (⟨rfl, rfl, visible⟩ | ⟨⟨stood, visible, new⟩, apart⟩)
    · refine ⟨List.mem_cons_self, visible, ?_⟩
      intro earlier other before alsoStood
      rcases List.mem_cons.mp alsoStood with same | later
      · obtain ⟨rfl, rfl⟩ := Prod.mk.inj same
        exact absurd before (Nat.lt_irrefl _)
      · exact absurd before (Nat.lt_asymm (behind _ later))
    · refine ⟨List.mem_cons_of_mem _ stood, visible, ?_⟩
      intro earlier other before alsoStood
      rcases List.mem_cons.mp alsoStood with same | later
      · obtain ⟨rfl, rfl⟩ := Prod.mk.inj same
        exact apart
      · exact new earlier other before later

/-- What stays when some keys have been seen before. -/
def StaysAfter (seen : List String) (placed : List (String × Nat)) (place : Nat) (text : String) :
    Prop :=
  ∃ entry, IsFirst (StandsIn placed) place entry ∧ entryKey entry ∉ seen ∧ text = trimmed entry

section Front

variable (seen : List String) (first : String) (start : Nat) (rest : List (String × Nat))
variable (behind : ∀ next ∈ rest, start < next.2) (place : Nat) (text : String)

include behind

/-- A blank or known entry in front neither stays nor keeps another from staying. -/
theorem staysAfter_cons_of_known (known : entryKey first = "" ∨ entryKey first ∈ seen) :
    StaysAfter seen ((first, start) :: rest) place text ↔ StaysAfter seen rest place text := by
  apply exists_congr
  intro entry
  rw [isFirst_cons_iff first start rest behind]
  constructor
  · rintro ⟨⟨-, rfl, visible⟩ | ⟨isFirst, -⟩, new, isText⟩
    · exact absurd known (not_or.mpr ⟨visible, new⟩)
    · exact ⟨isFirst, new, isText⟩
  · rintro ⟨isFirst, new, isText⟩
    refine ⟨.inr ⟨isFirst, ?_⟩, new, isText⟩
    intro same
    rw [same] at known
    exact known.elim isFirst.visible new

/-- A new entry in front stays, and behind it its key has been seen. -/
theorem staysAfter_cons_of_new (visible : entryKey first ≠ "") (new : entryKey first ∉ seen) :
    StaysAfter seen ((first, start) :: rest) place text ↔
      (place = start ∧ text = trimmed first) ∨
        StaysAfter (entryKey first :: seen) rest place text := by
  have inFront (entry : String) := isFirst_cons_iff first start rest behind place entry
  constructor
  · rintro ⟨entry, isFirst, unseen, isText⟩
    rcases (inFront entry).mp isFirst with ⟨rfl, rfl, -⟩ | ⟨isFirst, apart⟩
    · exact .inl ⟨rfl, isText⟩
    · have unseenBehind := List.not_mem_cons_of_ne_of_not_mem (Ne.symm apart) unseen
      exact .inr ⟨entry, isFirst, unseenBehind, isText⟩
  · rintro (⟨rfl, isText⟩ | ⟨entry, isFirst, unseen, isText⟩)
    · exact ⟨first, (inFront first).mpr (.inl ⟨rfl, rfl, visible⟩), new, isText⟩
    · obtain ⟨apart, unseen⟩ := List.ne_and_not_mem_of_not_mem_cons unseen
      exact ⟨entry, (inFront entry).mpr (.inr ⟨isFirst, Ne.symm apart⟩), unseen, isText⟩

end Front

/-- Going through entries with the keys seen so far lists what stays after these. -/
theorem listsInOrder_dedupeAfter (seen : List String) (placed : List (String × Nat))
    (ascending : placed.Pairwise fun first next => first.2 < next.2) :
    ListsInOrder (StaysAfter seen placed) (dedupeAfter seen (placed.map (·.1))) := by
  induction placed generalizing seen with
  | nil =>
    apply ListsInOrder.nil
    rintro place text ⟨entry, isFirst, -⟩
    cases isFirst.stood
  | cons front rest inductionHypothesis =>
    obtain ⟨first, start⟩ := front
    obtain ⟨behind, ascending⟩ := List.pairwise_cons.mp ascending
    rw [List.map_cons]
    by_cases known : entryKey first = "" ∨ entryKey first ∈ seen
    · rw [dedupeAfter_cons_of_known seen first _ known]
      apply (inductionHypothesis seen ascending).congr
      intro place text
      exact staysAfter_cons_of_known seen first start rest behind place text known
    · obtain ⟨visible, new⟩ := not_or.mp known
      rw [dedupeAfter_cons_of_new seen first _ visible new]
      have later := inductionHypothesis (entryKey first :: seen) ascending
      have together := later.cons start (trimmed first) (by
        rintro place text ⟨entry, isFirst, -⟩
        exact behind _ isFirst.stood)
      apply together.congr
      intro place text
      exact staysAfter_cons_of_new seen first start rest behind place text visible new

/-- Whatever stands where, what stays of it when repetitions are removed are its first entries. -/
theorem listsInOrder_dedupe {stands : Nat → String → Prop} {entries : List String}
    (lists : ListsInOrder stands entries) : ListsInOrder (StaysAt stands) (dedupe entries) := by
  obtain ⟨placed, ⟨ascending, complete⟩, rfl⟩ := lists
  obtain rfl : StandsIn placed = stands := by
    funext place entry
    exact propext (complete entry place)
  apply (listsInOrder_dedupeAfter [] placed ascending).congr
  intro place text
  simp only [StaysAt, StaysAfter, List.not_mem_nil, not_false_iff, true_and]

/-- Entries of which none is blank, untrimmed or repeated all stay as they are. -/
theorem dedupe_of_tidy (entries : List String)
    (tidy : ∀ entry ∈ entries, trimmed entry = entry ∧ entryKey entry ≠ "")
    (distinct : entries.Pairwise fun one other => entryKey one ≠ entryKey other) :
    dedupe entries = entries := by
  have own := listsInOrder_self entries
  apply (listsInOrder_dedupe own).unique
  apply own.congr
  intro place text
  constructor
  · rintro ⟨entry, ⟨stood, -, -⟩, rfl⟩
    rw [(tidy entry (List.mem_of_getElem? stood)).1]
    exact stood
  · intro stood
    obtain ⟨same, visible⟩ := tidy text (List.mem_of_getElem? stood)
    refine ⟨text, ⟨stood, visible, ?_⟩, same.symm⟩
    intro earlier other before alsoStood
    obtain ⟨_, rfl⟩ := List.getElem?_eq_some_iff.mp alsoStood
    obtain ⟨_, rfl⟩ := List.getElem?_eq_some_iff.mp stood
    exact List.pairwise_iff_getElem.mp distinct earlier place _ _ before

/-- The entries that are not missing, each at its place. -/
def GivenAt (entries : List (Option String)) (place : Nat) (entry : String) : Prop :=
  entries[place]? = some (some entry)

/-- Missing entries keep their places, and nothing stands there. -/
theorem listsInOrder_dedupeGiven (entries : List (Option String)) :
    ListsInOrder (StaysAt (GivenAt entries)) (dedupeGiven entries) := by
  apply listsInOrder_dedupe
  apply ((listsInOrder_self entries).filterMap id).congr
  intro place entry
  constructor
  · intro given
    exact ⟨some entry, given, rfl⟩
  · rintro ⟨_, given, rfl⟩
    exact given

/-- Entries behind a list that all occur in it have no place of their own in what stays. -/
theorem staysAt_append_iff (entries more : List (Option String)) (repeated : more ⊆ entries)
    (place : Nat) (text : String) :
    StaysAt (GivenAt (entries ++ more)) place text ↔ StaysAt (GivenAt entries) place text := by
  have inFront (place : Nat) (entry : String) (given : GivenAt entries place entry) :
      GivenAt (entries ++ more) place entry ∧ place < entries.length := by
    obtain ⟨inside, -⟩ := List.getElem?_eq_some_iff.mp given
    exact ⟨(List.getElem?_append_left inside).trans given, inside⟩
  apply exists_congr
  intro entry
  apply and_congr_left
  intro _
  constructor
  · rintro ⟨stood, visible, new⟩
    refine ⟨?_, visible, fun earlier other before given =>
      new earlier other before (inFront earlier other given).1⟩
    by_cases inside : place < entries.length
    · exact (List.getElem?_append_left inside).symm.trans stood
    · -- The same entry stands in the list itself, and so further in front.
      rw [GivenAt, List.getElem?_append_right (Nat.le_of_not_lt inside)] at stood
      obtain ⟨own, given⟩ := List.mem_iff_getElem?.mp (repeated (List.mem_of_getElem? stood))
      obtain ⟨stoodBefore, isInside⟩ := inFront own entry given
      exact absurd rfl (new own entry (by omega) stoodBefore)
  · rintro ⟨stood, visible, new⟩
    obtain ⟨stoodThere, isInside⟩ := inFront place entry stood
    refine ⟨stoodThere, visible, ?_⟩
    intro earlier other before given
    rw [GivenAt, List.getElem?_append_left (Nat.lt_trans before isInside)] at given
    exact new earlier other before given

/-- What is left of entries when repetitions are removed. -/
structure IsDeduplicated (entries : List (Option String)) (kept : List String) : Prop where
  tidy : ∀ text ∈ kept, trimmed text = text ∧ text ≠ ""
  distinct : kept.Pairwise fun one other => entryKey one ≠ entryKey other
  /-- An entry that is not blank is represented by the first one with its key, trimmed, and by
  nothing else. -/
  represented : ∀ entry, some entry ∈ entries → trimmed entry ≠ "" →
    ∃ place first, IsFirst (GivenAt entries) place first ∧ entryKey first = entryKey entry ∧
      ∀ text, (text ∈ kept ∧ entryKey text = entryKey entry) ↔ text = trimmed first
  inOrder : ListsInOrder (StaysAt (GivenAt entries)) kept

/-- Whatever lists the first entries in order is a list of entries without repetitions. -/
theorem IsDeduplicated.of_listsInOrder (entries : List (Option String)) (kept : List String)
    (lists : ListsInOrder (StaysAt (GivenAt entries)) kept) : IsDeduplicated entries kept where
  tidy := by
    intro text member
    obtain ⟨place, stays⟩ := (lists.mem_iff text).mp member
    obtain ⟨same, visible⟩ := stays.tidy
    refine ⟨same, ?_⟩
    rw [Ne, entryKey_eq_empty_iff, same] at visible
    exact visible
  distinct := by
    apply lists.pairwise.imp
    rintro text next ⟨place, later, before, stays, alsoStays⟩
    exact stays.key_ne alsoStays before
  represented := by
    intro entry given visible
    obtain ⟨place, stood⟩ : ∃ place, GivenAt entries place entry :=
      List.mem_iff_getElem?.mp given
    rw [Ne, ← entryKey_eq_empty_iff] at visible
    obtain ⟨start, first, isFirst, alike⟩ := exists_isFirst stood visible
    refine ⟨start, first, isFirst, alike, ?_⟩
    intro text
    constructor
    · rintro ⟨member, same⟩
      obtain ⟨place, other, isOther, rfl⟩ := (lists.mem_iff text).mp member
      rw [entryKey_trimmed, ← alike] at same
      -- Of two first entries with one key neither stands in front of the other.
      rcases Nat.lt_trichotomy place start with before | rfl | behind
      · exact absurd same (isFirst.new place other before isOther.stood)
      · have here := isOther.stood.symm.trans isFirst.stood
        rw [Option.some.inj (Option.some.inj here)]
      · exact absurd same.symm (isOther.new start first behind isFirst.stood)
    · rintro rfl
      rw [entryKey_trimmed]
      exact ⟨(lists.mem_iff _).mpr ⟨start, first, isFirst, rfl⟩, alike⟩
  inOrder := lists

/-- Removing repetitions leaves of each key one entry.

Of a list of entries, some of them missing, it leaves trimmed texts that are not blank and have
different keys. An entry that is not blank has one of them with its key, which is the first entry
with that key, trimmed, and they stand in the order of these first entries. Removing repetitions
from what is left changes nothing, and neither do entries behind the list that it already has. -/
theorem one_entry_of_each_key_stays (entries : List (Option String)) :
    IsDeduplicated entries (dedupeGiven entries) ∧
      dedupeGiven ((dedupeGiven entries).map some) = dedupeGiven entries ∧
      ∀ more, more ⊆ entries → dedupeGiven (entries ++ more) = dedupeGiven entries := by
  have lists := listsInOrder_dedupeGiven entries
  have deduplicated := IsDeduplicated.of_listsInOrder entries _ lists
  refine ⟨deduplicated, ?_, ?_⟩
  · have given : dedupeGiven ((dedupeGiven entries).map some) = dedupe (dedupeGiven entries) := by
      rw [dedupeGiven, List.filterMap_map, Function.id_comp, List.filterMap_some]
    rw [given]
    apply dedupe_of_tidy _ _ deduplicated.distinct
    intro text member
    obtain ⟨place, stays⟩ := (lists.mem_iff text).mp member
    exact stays.tidy
  · intro more repeated
    apply (listsInOrder_dedupeGiven (entries ++ more)).unique
    apply lists.congr
    exact staysAt_append_iff entries more repeated

end Rulebook.Text
