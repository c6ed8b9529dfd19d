import Mathlib.Data.List.TakeWhile
import Rulebook.Community.Name
import Rulebook.Proofs.Letters
import Rulebook.Proofs.Lowering

/-!
# Keys of keys

A name is reduced to its key wherever it comes in, and what comes in may be a key already. A key
has no white space, no mark and no capitals, so nothing is left to be done to it, with one
exception: the dotted capital I is kept as a letter and lowered to an `i` and a dot, and a dot is
no character of a key. The key of such a key is another one.

The key of a key is settled: all further reductions leave it as it is.
-/

namespace Rulebook

namespace Text

/-- Nothing is dropped from a text without white space. -/
theorem trim_of_not_blank (cs : List Char) (solid : ∀ c ∈ cs, isBlank c = false) : trim cs = cs := by
  have kept (part : List Char) (within : ∀ c ∈ part, isBlank c = false) :
      part.dropWhile isBlank = part := by
    refine List.dropWhile_eq_self_iff.mpr fun some => ?_
    rw [within _ (List.getElem_mem some)]
    exact Bool.false_ne_true
  have back : ∀ c ∈ cs.reverse, isBlank c = false := fun c member =>
    solid c (List.mem_reverse.mp member)
  rw [trim, trimStart, kept cs solid, trimEnd, kept cs.reverse back, List.reverse_reverse]

end Text

namespace Community

open Text (small smallVariants lower lowerBetween isBlank)

/-- The dot that lowering a dotted capital I leaves behind the letter. -/
def dot : Char := '\u0307'

/-- A character stays in a key when its small letter does. -/
theorem isKeyChar_small (c : Char) : isKeyChar (small c) = isKeyChar c := by
  unfold isKeyChar Text.spellings
  rw [Text.small_small]

/-- A dot does not stay in a key. -/
theorem isKeyChar_dot : isKeyChar dot = false := by decide

/-- A slash does not stay in a key. -/
theorem isKeyChar_slash : isKeyChar '/' = false := by decide

/-- A character stays in a key when a small letter that it spells is plain. -/
theorem isKeyChar_eq_variants (c : Char) :
    isKeyChar c = (smallVariants (small c)).any isPlainKeyChar := by
  rw [Bool.eq_iff_iff, isKeyChar, List.any_eq_true, List.any_eq_true]
  constructor
  · rintro ⟨spelling, listed, plain⟩
    obtain ⟨variant, isVariant, written⟩ := List.mem_flatMap.mp listed
    refine ⟨variant, isVariant, ?_⟩
    have range := Text.range_of_plain spelling plain
    rcases Text.letter_of_spelling variant spelling written (by omega) (by omega) with rfl | letter
    · exact plain
    · have alphanumeric := (Text.isAlphanum_iff variant).mpr (Or.inr (Or.inl letter))
      rw [isPlainKeyChar, alphanumeric, Bool.true_or]
  · rintro ⟨variant, isVariant, plain⟩
    exact ⟨variant, List.mem_flatMap.mpr ⟨variant, isVariant, List.mem_cons_self⟩, plain⟩

/-- White space does not stay in a key. -/
theorem isBlank_of_isKeyChar (c : Char) (stays : isKeyChar c = true) : isBlank c = false := by
  apply Bool.eq_false_iff.mpr
  intro blank
  rw [isKeyChar_eq_variants, Text.smallVariants_of_isBlank c blank, List.any_cons, List.any_nil,
    Bool.or_false] at stays
  have range := Text.range_of_plain c stays
  have spares : Text.sparesBlanks 48 122 = true := by decide
  rw [Text.isBlank_of_sparesBlanks spares c range.1 range.2] at blank
  cases blank

/-- What a character of a key is lowered to stays in a key, but for the dot of a dotted capital
I. -/
theorem isKeyChar_or_dot_of_lowered (before after : List Char) (c lowered : Char)
    (stays : isKeyChar c = true) (member : lowered ∈ lowerBetween before c after) :
    isKeyChar lowered = true ∨ (c = 'İ' ∧ lowered = dot) := by
  have noSigma : c ≠ 'Σ' := by
    rintro rfl
    exact absurd stays (by decide)
  by_cases dotted : c = 'İ'
  · subst dotted
    have letters : lowerBetween before 'İ' after = ['i', dot] := rfl
    rw [letters] at member
    rcases List.mem_cons.mp member with rfl | last
    · exact Or.inl (by decide)
    · exact Or.inr ⟨rfl, List.mem_singleton.mp last⟩
  · have letter : lowerBetween before c after = [small c] := by simp [lowerBetween, noSigma, dotted]
    rw [letter] at member
    obtain rfl := List.mem_singleton.mp member
    exact Or.inl ((isKeyChar_small c).trans stays)

/-- The characters of a name that stay in its key. -/
def keptChars (name : String) : List Char :=
  (dropMark (Text.trim name.toList)).filter isKeyChar

/-- The key is what stays, lowered. -/
theorem toList_key (name : String) : (key name).toList = lower (keptChars name) :=
  String.toList_ofList

/-- Lowering characters of a key gives characters of a key, and the dots of dotted capitals. -/
theorem isKeyChar_or_dot_of_mem_lowerAfter (c : Char) (before cs : List Char)
    (stay : ∀ d ∈ cs, isKeyChar d = true) (member : c ∈ Text.lowerAfter before cs) :
    isKeyChar c = true ∨ ('İ' ∈ cs ∧ c = dot) := by
  induction cs generalizing before with
  | nil => cases member
  | cons first rest inductionHypothesis =>
    obtain ⟨stays, others⟩ := List.forall_mem_cons.mp stay
    rcases List.mem_append.mp member with here | later
    · rcases isKeyChar_or_dot_of_lowered before rest first c stays here with left | ⟨rfl, same⟩
      · exact Or.inl left
      · exact Or.inr ⟨List.mem_cons_self, same⟩
    · rcases inductionHypothesis _ others later with left | ⟨dotted, same⟩
      · exact Or.inl left
      · exact Or.inr ⟨List.mem_cons_of_mem _ dotted, same⟩

/-- Lowering a dotted capital I leaves its dot. -/
theorem dot_mem_lowerAfter (before cs : List Char) (dotted : 'İ' ∈ cs) :
    dot ∈ Text.lowerAfter before cs := by
  induction cs generalizing before with
  | nil => cases dotted
  | cons first rest inductionHypothesis =>
    rcases List.mem_cons.mp dotted with rfl | later
    · exact List.mem_append_left _ (List.mem_cons_of_mem _ List.mem_cons_self)
    · exact List.mem_append_right _ (inductionHypothesis _ later)

/-- A key has characters that stay, and the dots of dotted capitals. -/
theorem isKeyChar_or_dot_of_mem_key (name : String) (c : Char) (member : c ∈ (key name).toList) :
    isKeyChar c = true ∨ ('İ' ∈ keptChars name ∧ c = dot) := by
  have stay : ∀ d ∈ keptChars name, isKeyChar d = true := fun d among => (List.mem_filter.mp among).2
  rw [toList_key] at member
  exact isKeyChar_or_dot_of_mem_lowerAfter c [] _ stay member

/-- A dotted capital I that stays leaves its dot in the key. -/
theorem dot_mem_key (name : String) (dotted : 'İ' ∈ keptChars name) : dot ∈ (key name).toList := by
  rw [toList_key]
  exact dot_mem_lowerAfter [] _ dotted

/-- A text that does not begin with a mark is kept. -/
theorem dropMark_of_no_slash (cs : List Char) (plain : '/' ∉ cs) : dropMark cs = cs := by
  unfold dropMark
  split
  · exact absurd List.mem_cons_self plain
  · exact absurd (List.mem_cons_of_mem _ List.mem_cons_self) plain
  · rfl

/-- Of a key only the dots are dropped when it is reduced again. -/
theorem toList_key_key (name : String) :
    (key (key name)).toList = (key name).toList.filter isKeyChar := by
  have solid : ∀ c ∈ (key name).toList, isBlank c = false := by
    intro c member
    rcases isKeyChar_or_dot_of_mem_key name c member with stays | ⟨-, rfl⟩
    · exact isBlank_of_isKeyChar c stays
    · decide
  have plain : '/' ∉ (key name).toList := by
    intro member
    rcases isKeyChar_or_dot_of_mem_key name '/' member with stays | ⟨-, same⟩
    · rw [isKeyChar_slash] at stays
      cases stays
    · exact absurd same (by decide)
  have isSmall : ∀ c ∈ (key name).toList.filter isKeyChar, small c = c := by
    intro c member
    have among := (List.mem_filter.mp member).1
    rw [toList_key] at among
    exact Text.small_of_mem_lower _ c among
  rw [toList_key, keptChars, Text.trim_of_not_blank _ solid, dropMark_of_no_slash _ plain,
    Text.lower_of_small _ isSmall]

/-- The key of a key is settled. -/
theorem key_key_key (name : String) : key (key (key name)) = key (key name) := by
  rw [← String.toList_inj, toList_key_key, toList_key_key, List.filter_filter]
  simp only [Bool.and_self]

/-- A key is settled exactly when no dotted capital I stays in it. -/
theorem key_key_eq_iff (name : String) : key (key name) = key name ↔ 'İ' ∉ keptChars name := by
  rw [← String.toList_inj, toList_key_key, List.filter_eq_self]
  constructor
  · intro stay dotted
    have stays := stay dot (dot_mem_key name dotted)
    rw [isKeyChar_dot] at stays
    cases stays
  · intro undotted c member
    exact (isKeyChar_or_dot_of_mem_key name c member).resolve_right fun both => undotted both.1

example : key "İ" = "i\u0307" ∧ key (key "İ") = "i" := by decide

/-- Reducing a key again leaves nothing exactly when there was nothing. -/
theorem key_key_eq_empty_iff (name : String) : key (key name) = "" ↔ key name = "" := by
  rw [← String.toList_eq_nil_iff, ← String.toList_eq_nil_iff, toList_key_key, List.filter_eq_nil_iff]
  refine ⟨fun none => ?_, fun empty c member => ?_⟩
  · rw [toList_key, Text.lower_eq_nil_iff]
    -- The first character that stays is lowered to one that stays, or to an `i` and a dot.
    cases kept : keptChars name with
    | nil => rfl
    | cons first rest =>
      have stays : isKeyChar first = true := by
        have among : first ∈ keptChars name := kept ▸ List.mem_cons_self
        exact (List.mem_filter.mp among).2
      obtain ⟨lowered, others, letters⟩ : ∃ lowered others,
          lowerBetween [] first rest = lowered :: others := by
        unfold lowerBetween
        split
        · exact ⟨_, [], rfl⟩
        · split <;> exact ⟨_, _, rfl⟩
      have leads : lowered ∈ lowerBetween [] first rest := letters ▸ List.mem_cons_self
      have member : lowered ∈ (key name).toList := by
        rw [toList_key, kept]
        exact List.mem_append_left _ leads
      rcases isKeyChar_or_dot_of_lowered [] rest first lowered stays leads with left | ⟨rfl, rfl⟩
      · exact absurd left (none lowered member)
      · cases letters
  · rw [empty] at member
    cases member

end Community

end Rulebook
