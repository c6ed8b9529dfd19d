import Rulebook.Proofs.Lowering
import Rulebook.Text.Dedupe

/-!
# Which entries stay

Entries are compared by their keys, and of entries with one key the first stays. So every entry
that is not blank has a representative among those that stay, and a text is one of those that stay
exactly when it is the first with its key, trimmed.

Texts of small letters differ from their keys in white space only. Of such entries all with one key
leave the same text behind.
-/

namespace Rulebook.Text

/-- A trimmed text is a part of the text. -/
theorem trim_isInfix (cs : List Char) : trim cs <:+: cs := by
  have front : trimStart cs <:+ cs := List.dropWhile_suffix _
  have back : trimEnd (trimStart cs) <+: trimStart cs := by
    have mirrored : (trimStart cs).reverse.dropWhile isBlank <:+ (trimStart cs).reverse :=
      List.dropWhile_suffix _
    have turned := List.reverse_prefix.mpr mirrored
    rw [List.reverse_reverse] at turned
    exact turned
  exact back.isInfix.trans front.isInfix

/-- The first of the entries that have the key of a given one. -/
def firstAlike (entries : List String) (entry : String) : Option String :=
  entries.find? fun other => entryKey other == entryKey entry

/-- An entry in front with another key is passed over. -/
theorem firstAlike_cons_of_ne (first entry : String) (rest : List String)
    (other : entryKey first ≠ entryKey entry) :
    firstAlike (first :: rest) entry = firstAlike rest entry :=
  List.find?_cons_of_neg (by simpa using other)

/-- An entry in front with the same key is found. -/
theorem firstAlike_cons_of_eq (first entry : String) (rest : List String)
    (same : entryKey first = entryKey entry) :
    firstAlike (first :: rest) entry = some first :=
  List.find?_cons_of_pos (by simpa using same)

/-- What stays, given the keys already seen: of each other key that is not blank the first entry,
trimmed. -/
theorem mem_dedupeAfter_iff (seen entries : List String) (kept : String) :
    kept ∈ dedupeAfter seen entries ↔ ∃ entry, firstAlike entries entry = some entry ∧
      entryKey entry ≠ "" ∧ entryKey entry ∉ seen ∧ kept = trimmed entry := by
  induction entries generalizing seen with
  | nil =>
    constructor
    · intro member
      cases member
    · rintro ⟨entry, found, -⟩
      cases found
  | cons first rest inductionHypothesis =>
    rw [dedupeAfter]
    split
    · next dropped =>
      have passed (entry : String) (visible : entryKey entry ≠ "") (new : entryKey entry ∉ seen) :
          entryKey first ≠ entryKey entry := by
        intro same
        rcases Bool.or_eq_true_iff.mp dropped with blank | known
        · exact visible (same ▸ beq_iff_eq.mp blank)
        · exact new (same ▸ List.contains_iff_mem.mp known)
      rw [inductionHypothesis]
      constructor
      · rintro ⟨entry, found, visible, new, rfl⟩
        refine ⟨entry, ?_, visible, new, rfl⟩
        rw [firstAlike_cons_of_ne _ _ _ (passed entry visible new), found]
      · rintro ⟨entry, found, visible, new, rfl⟩
        rw [firstAlike_cons_of_ne _ _ _ (passed entry visible new)] at found
        exact ⟨entry, found, visible, new, rfl⟩
    · next stays =>
      obtain ⟨some, new⟩ : entryKey first ≠ "" ∧ entryKey first ∉ seen := by
        simpa [not_or] using stays
      rw [List.mem_cons, inductionHypothesis]
      constructor
      · rintro (rfl | ⟨entry, found, visible, unseen, rfl⟩)
        · exact ⟨first, firstAlike_cons_of_eq _ _ _ rfl, some, new, rfl⟩
        · obtain ⟨other, unseen⟩ := List.ne_and_not_mem_of_not_mem_cons unseen
          refine ⟨entry, ?_, visible, unseen, rfl⟩
          rw [firstAlike_cons_of_ne _ _ _ other.symm, found]
      · rintro ⟨entry, found, visible, unseen, rfl⟩
        by_cases same : entryKey first = entryKey entry
        · rw [firstAlike_cons_of_eq _ _ _ same] at found
          obtain rfl := Option.some.inj found
          exact Or.inl rfl
        · rw [firstAlike_cons_of_ne _ _ _ same] at found
          refine Or.inr ⟨entry, found, visible, ?_, rfl⟩
          exact List.not_mem_cons_of_ne_of_not_mem (Ne.symm same) unseen

/-- What stays is of each key that is not blank the first entry, trimmed. -/
theorem mem_dedupe_iff (entries : List String) (kept : String) :
    kept ∈ dedupe entries ↔ ∃ entry, firstAlike entries entry = some entry ∧
      entryKey entry ≠ "" ∧ kept = trimmed entry := by
  rw [dedupe, mem_dedupeAfter_iff]
  simp only [List.not_mem_nil, not_false_iff, true_and]

/-- Every entry is represented by the first with its key, and what represents itself is first. -/
theorem exists_firstAlike (entries : List String) (entry : String) (member : entry ∈ entries) :
    ∃ first ∈ entries, entryKey first = entryKey entry ∧
      firstAlike entries entry = some first ∧ firstAlike entries first = some first := by
  cases found : firstAlike entries entry with
  | none =>
    have apart := List.find?_eq_none.mp found entry member
    exact absurd (beq_self_eq_true _) apart
  | some first =>
    have same : entryKey first = entryKey entry := by simpa using List.find?_some found
    refine ⟨first, List.mem_of_find?_eq_some found, same, rfl, ?_⟩
    have alike : firstAlike entries first = firstAlike entries entry := by
      unfold firstAlike
      rw [same]
    rw [alike, found]

/-- Every entry that is not blank leaves an entry with its key behind. -/
theorem exists_kept (entries : List String) (entry : String) (member : entry ∈ entries)
    (visible : entryKey entry ≠ "") :
    ∃ first ∈ entries, entryKey first = entryKey entry ∧ trimmed first ∈ dedupe entries := by
  obtain ⟨first, listed, same, -, itself⟩ := exists_firstAlike entries entry member
  have shown : entryKey first ≠ "" := by
    rw [same]
    exact visible
  exact ⟨first, listed, same, (mem_dedupe_iff entries _).mpr ⟨first, itself, shown, rfl⟩⟩

/-- The key of a text of small letters is the text, trimmed. -/
theorem entryKey_of_small (entry : String) (isSmall : ∀ c ∈ entry.toList, small c = c) :
    entryKey entry = trimmed entry := by
  have inside : ∀ c ∈ trim entry.toList, small c = c := fun c member =>
    isSmall c ((trim_isInfix entry.toList).subset member)
  rw [entryKey, lowered, trimmed, String.toList_ofList, lower_of_small _ inside]

/-- Of texts of small letters every one that is not blank stays, trimmed. -/
theorem trimmed_mem_dedupe (entries : List String) (entry : String) (member : entry ∈ entries)
    (visible : trimmed entry ≠ "") (isSmall : ∀ e ∈ entries, ∀ c ∈ e.toList, small c = c) :
    trimmed entry ∈ dedupe entries := by
  have key (e : String) (listed : e ∈ entries) : entryKey e = trimmed e :=
    entryKey_of_small e (isSmall e listed)
  obtain ⟨first, listed, same, kept⟩ :=
    exists_kept entries entry member (by rw [key entry member]; exact visible)
  rw [key first listed, key entry member] at same
  exact same ▸ kept

end Rulebook.Text
