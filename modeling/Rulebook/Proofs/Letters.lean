import Rulebook.Lint.Link

/-!
# Letters that begin and end links

A word is found in a text exactly where the characters agree up to case. Case can be left
out of sight when links are looked for: every letter of a host name is a word character, in
any spelling, and no character that ends an address is one.

The tables of cased letters are only consulted by their runs. A capital outside ASCII whose
small letter lies inside ASCII is a run of its own, so no run has to be walked. White space lies
between the runs and between the spans of word characters: it has no case and is in no word.
-/

namespace Rulebook.Text

/-- A word begins a text where the characters are its own up to case. -/
theorem afterWord?_eq_some_iff (word text rest : List Char) :
    afterWord? word text = some rest ↔
      ∃ front, text = front ++ rest ∧ front.map caseKey = word.map caseKey := by
  induction word generalizing text with
  | nil =>
    simp only [afterWord?, Option.some.injEq, List.map_nil, List.map_eq_nil_iff]
    constructor
    · rintro rfl
      exact ⟨[], rfl, rfl⟩
    · rintro ⟨front, split, rfl⟩
      exact split
  | cons w word inductionHypothesis =>
    cases text with
    | nil => simp [afterWord?]
    | cons c text =>
      by_cases same : sameLetter w c = true
      · have keys : caseKey w = caseKey c := by simpa [sameLetter] using same
        simp only [afterWord?, same, if_true, inductionHypothesis, List.map_cons]
        constructor
        · rintro ⟨front, rfl, spelled⟩
          exact ⟨c :: front, rfl, by simp [keys, spelled]⟩
        · rintro ⟨front, split, spelled⟩
          cases front with
          | nil => simp at spelled
          | cons d front =>
            obtain ⟨rfl, rfl⟩ := List.cons_eq_cons.mp split
            exact ⟨front, rfl, (List.cons_eq_cons.mp spelled).2⟩
      · have keys : caseKey w ≠ caseKey c := by simpa [sameLetter] using same
        simp only [afterWord?, same, if_false, Bool.false_eq_true, false_iff, reduceCtorEq]
        rintro ⟨front, split, spelled⟩
        cases front with
        | nil => simp at spelled
        | cons d front =>
          obtain ⟨rfl, rfl⟩ := List.cons_eq_cons.mp split
          exact keys (List.cons_eq_cons.mp spelled).1.symm

/-- The capitals, small letters and digits of ASCII by their numbers. -/
theorem isAlphanum_iff (c : Char) : c.isAlphanum = true ↔
    (65 ≤ c.toNat ∧ c.toNat ≤ 90) ∨ (97 ≤ c.toNat ∧ c.toNat ≤ 122) ∨
      (48 ≤ c.toNat ∧ c.toNat ≤ 57) := by
  show (decide ('A'.val ≤ c.val ∧ c.val ≤ 'Z'.val)
    || (decide ('a'.val ≤ c.val) && decide (c.val ≤ 'z'.val))
    || (decide ('0'.val ≤ c.val) && decide (c.val ≤ '9'.val))) = true ↔ _
  simp [UInt32.le_iff_toNat_le, or_assoc]

/-- The capitals of ASCII by their numbers. -/
theorem range_of_isUpper (c : Char) (upper : c.isUpper = true) : 65 ≤ c.toNat ∧ c.toNat ≤ 90 := by
  have bounds : 'A'.val ≤ c.val ∧ c.val ≤ 'Z'.val := of_decide_eq_true upper
  exact ⟨UInt32.le_iff_toNat_le.mp bounds.1, UInt32.le_iff_toNat_le.mp bounds.2⟩

/-- The letters and digits of ASCII and the underscore lie in one span. -/
theorem range_of_plain (c : Char) (plain : (c.isAlphanum || c == '_') = true) :
    48 ≤ c.toNat ∧ c.toNat ≤ 122 := by
  rcases Bool.or_eq_true_iff.mp plain with letter | underscore
  · have ranges := (isAlphanum_iff c).mp letter
    omega
  · obtain rfl := beq_iff_eq.mp underscore
    decide

/-- Letters and digits of ASCII are below 128. -/
theorem toNat_lt_of_isAlphanum (c : Char) (plain : c.isAlphanum = true) : c.toNat < 128 := by
  have ranges := (isAlphanum_iff c).mp plain
  omega

/-- A character of ASCII is one of the first 128. -/
theorem exists_point_of_ascii (c : Char) (ascii : c.toNat < 128) :
    ∃ point < 128, c = Char.ofNat point :=
  ⟨c.toNat, ascii, (Char.ofNat_toNat c).symm⟩

/-- Every code point of a character is the code point of the character with that number. -/
theorem toNat_ofNat (point : Nat) (valid : point.isValidChar) : (Char.ofNat point).toNat = point := by
  rw [Char.ofNat, dif_pos valid]
  rfl

/-- Numbers from 128 on are those of characters outside ASCII, or of none. -/
theorem toNat_ofNat_of_wide (point : Nat) (wide : 128 ≤ point) :
    (Char.ofNat point).toNat = 0 ∨ 128 ≤ (Char.ofNat point).toNat := by
  by_cases valid : point.isValidChar
  · rw [toNat_ofNat point valid]
    exact Or.inr wide
  · rw [Char.ofNat, dif_neg valid]
    exact Or.inl rfl

/-- No capital outside ASCII is spelled inside it by its table entry. -/
theorem first_of_mem_capitalRuns : ∀ run ∈ capitalRuns, 128 ≤ run.first := by decide +kernel

/-- The small letters of a run are far from ASCII, or its capitals are word characters. Few
runs come near ASCII, and their capitals stand at the front of the table. -/
theorem target_or_span_of_mem_capitalRuns : ∀ run ∈ capitalRuns,
    (0x17f < run.target ∧ run.target + (run.last - run.first) < 0xd800) ∨
      ∃ span ∈ wordSpans, span.1 ≤ run.first ∧ run.last ≤ span.2 := by
  have checked : (capitalRuns.all fun run =>
      (Nat.blt 0x17f run.target && Nat.blt (run.target + (run.last - run.first)) 0xd800)
        || wordSpans.any fun span =>
          Nat.ble span.1 run.first && Nat.ble run.last span.2) = true := by decide +kernel
  intro run member
  have here := List.all_eq_true.mp checked run member
  simpa only [Bool.or_eq_true, Bool.and_eq_true, Nat.blt_eq, Nat.ble_eq, List.any_eq_true]
    using here

/-- The dotless i and the long s are the only letters outside ASCII that share a capital with
one inside it. -/
theorem plain_or_of_mem_sharedCapitals : ∀ letters ∈ sharedCapitals, ∀ variant ∈ letters,
    variant.toNat < 128 → ∀ letter ∈ letters,
      letter.toNat < 128 ∨ letter = 'ı' ∨ letter = 'ſ' := by
  -- The check runs along the lists; a quantifier over letters would be decided over all of them.
  have checked : (sharedCapitals.all fun letters => letters.all fun variant =>
      !decide (variant.toNat < 128) || letters.all fun letter =>
        decide (letter.toNat < 128 ∨ letter = 'ı' ∨ letter = 'ſ')) = true := by decide
  intro letters listed variant member below letter inside
  have here := List.all_eq_true.mp (List.all_eq_true.mp checked letters listed) variant member
  simp only [below, decide_true, Bool.not_true, Bool.false_or] at here
  exact of_decide_eq_true (List.all_eq_true.mp here letter inside)

/-- A spelling inside ASCII is the letter itself or spells a small letter of ASCII: the runs list
capitals outside it. -/
theorem letter_of_spelling (letter spelling : Char)
    (written : spelling ∈ letter :: capitalsOf letter) (first : 0 < spelling.toNat)
    (last : spelling.toNat < 128) :
    spelling = letter ∨ (97 ≤ letter.toNat ∧ letter.toNat ≤ 122) := by
  rcases List.mem_cons.mp written with same | capital
  · exact Or.inl same
  · rcases List.mem_append.mp capital with simple | listed
    · split at simple
      · next range =>
        simp only [Bool.and_eq_true, decide_eq_true_eq] at range
        exact Or.inr range
      · cases simple
    · obtain ⟨run, member, rfl⟩ := List.mem_map.mp listed
      have start := first_of_mem_capitalRuns run (List.mem_filter.mp member).1
      have apart := toNat_ofNat_of_wide (run.first + (letter.toNat - run.target)) (by omega)
      omega

/-- A letter with a letter or digit of ASCII as a spelling is one itself. -/
theorem isAlphanum_of_spelling (letter spelling : Char)
    (written : spelling ∈ letter :: capitalsOf letter) (plain : spelling.isAlphanum = true) :
    letter.isAlphanum = true := by
  have ranges := (isAlphanum_iff spelling).mp plain
  rcases letter_of_spelling letter spelling written (by omega) (by omega) with rfl | range
  · exact plain
  · exact (isAlphanum_iff letter).mpr (Or.inr (Or.inl range))

/-- A small letter with a variant in ASCII is in ASCII, or one of the two letters that share
a capital with one that is. -/
theorem plain_or_of_variant (letter variant : Char) (isVariant : variant ∈ smallVariants letter)
    (below : variant.toNat < 128) : letter.toNat < 128 ∨ letter = 'ı' ∨ letter = 'ſ' := by
  unfold smallVariants at isVariant
  split at isVariant
  · next letters found =>
    have member : letters ∈ sharedCapitals := List.mem_of_find?_eq_some found
    have inside : letter ∈ letters := by simpa using List.find?_some found
    exact plain_or_of_mem_sharedCapitals letters member variant isVariant below letter inside
  · rw [List.mem_singleton] at isVariant
    exact Or.inl (isVariant ▸ below)

/-- Inside ASCII only letters and digits have a letter or digit as a variant. -/
theorem isWord_of_variant_plain (c variant : Char) (ascii : c.toNat < 128)
    (isVariant : variant ∈ smallVariants (small c)) (plain : variant.isAlphanum = true) :
    isWord c = true := by
  rw [isWord, if_pos ascii, Bool.or_eq_true]
  left
  by_cases upper : c.isUpper = true
  · exact (isAlphanum_iff c).mpr (Or.inl (range_of_isUpper c upper))
  · have own : small c = c := by simp [small, ascii, upper]
    rw [own, smallVariants] at isVariant
    split at isVariant
    · next letters found =>
      have inside : c ∈ letters := by simpa using List.find?_some found
      have checked : (sharedCapitals.all fun letters => letters.all fun letter =>
          !decide (letter.toNat < 128) || letter.isAlphanum) = true := by decide
      have here := List.all_eq_true.mp
        (List.all_eq_true.mp checked letters (List.mem_of_find?_eq_some found)) c inside
      simpa [ascii] using here
    · rwa [List.mem_singleton.mp isVariant] at plain

/-- A character with a letter or digit of ASCII among its spellings is a word character. -/
theorem isWord_of_spelled (c : Char) (spelled : (spellings c).any Char.isAlphanum = true) :
    isWord c = true := by
  obtain ⟨spelling, listed, plainSpelling⟩ := List.any_eq_true.mp spelled
  obtain ⟨variant, isVariant, written⟩ := List.mem_flatMap.mp listed
  have plain := isAlphanum_of_spelling variant spelling written plainSpelling
  by_cases ascii : c.toNat < 128
  · exact isWord_of_variant_plain c variant ascii isVariant plain
  · have reached := plain_or_of_variant (small c) variant isVariant
      (toNat_lt_of_isAlphanum variant plain)
    unfold small at reached
    rw [if_neg ascii] at reached
    split at reached
    · next run found =>
      have member : run ∈ capitalRuns := List.mem_of_find?_eq_some found
      have held : run.holds c.toNat = true := by simpa using List.find?_some found
      have bounds : run.first ≤ c.toNat ∧ c.toNat ≤ run.last := by
        simp [CapitalRun.holds] at held
        exact held.1
      rcases target_or_span_of_mem_capitalRuns run member with far | ⟨span, listed, first, last⟩
      · have valid : (run.target + (c.toNat - run.first)).isValidChar := Or.inl (by omega)
        have number := toNat_ofNat _ valid
        rcases reached with below | dotless | long
        · omega
        · rw [dotless, show 'ı'.toNat = 0x131 from rfl] at number
          omega
        · rw [long, show 'ſ'.toNat = 0x17f from rfl] at number
          omega
      · rw [isWord, if_neg ascii, covers_eq_true_iff]
        exact ⟨span, listed, by omega, by omega⟩
    · rcases reached with below | rfl | rfl
      · exact absurd below ascii
      · decide
      · decide

/-- The gaps between white space, from the first sign of ASCII on. -/
def blankGaps : List (Nat × Nat) :=
  [(0x21, 0x84), (0x86, 0x9f), (0xa1, 0x167f), (0x1681, 0x1fff), (0x200b, 0x2027),
   (0x202a, 0x202e), (0x2030, 0x205e), (0x2060, 0x2fff), (0x3001, 0x10ffff)]

/-- True of a span that lies in a gap between white space. As whole tables are tested, the test
is made of operations that the kernel computes at once. -/
def sparesBlanks (first last : Nat) : Bool :=
  blankGaps.any fun gap => Nat.ble gap.1 first && Nat.ble last gap.2

/-- No character of a span in a gap is white space. -/
theorem isBlank_of_sparesBlanks {first last : Nat} (spares : sparesBlanks first last = true)
    (c : Char) (start : first ≤ c.toNat) (stop : c.toNat ≤ last) : isBlank c = false := by
  obtain ⟨gap, listed, inside⟩ := List.any_eq_true.mp spares
  simp only [Bool.and_eq_true, Nat.ble_eq] at inside
  apply Bool.eq_false_iff.mpr
  intro blank
  have points : (9 ≤ c.toNat ∧ c.toNat ≤ 13) ∨ (28 ≤ c.toNat ∧ c.toNat ≤ 32) ∨ c.toNat = 0x85 ∨
      c.toNat = 0xa0 ∨ c.toNat = 0x1680 ∨ (0x2000 ≤ c.toNat ∧ c.toNat ≤ 0x200a) ∨
      c.toNat = 0x2028 ∨ c.toNat = 0x2029 ∨ c.toNat = 0x202f ∨ c.toNat = 0x205f ∨
      c.toNat = 0x3000 := by
    simp only [isBlank] at blank
    split at blank <;> simp at blank <;> omega
  simp only [blankGaps, List.mem_cons, List.not_mem_nil, or_false] at listed
  rcases listed with rfl | rfl | rfl | rfl | rfl | rfl | rfl | rfl | rfl <;> omega

/-- No capital of the table is white space. -/
theorem capitalRuns_spare_blanks :
    (capitalRuns.all fun run => sparesBlanks run.first run.last) = true := by decide

/-- No span of word characters holds white space. -/
theorem wordSpans_spare_blanks :
    (wordSpans.all fun span => sparesBlanks span.1 span.2) = true := by decide +kernel

/-- White space is its own small letter. -/
theorem small_of_isBlank (c : Char) (blank : isBlank c = true) : small c = c := by
  unfold small
  split
  · split
    · next upper =>
      have range := range_of_isUpper c upper
      have spares : sparesBlanks 65 90 = true := by decide
      rw [isBlank_of_sparesBlanks spares c range.1 range.2] at blank
      cases blank
    · rfl
  · split
    · next run found =>
      have member : run ∈ capitalRuns := List.mem_of_find?_eq_some found
      have spares := List.all_eq_true.mp capitalRuns_spare_blanks run member
      have held : run.holds c.toNat = true := by simpa using List.find?_some found
      simp only [CapitalRun.holds, Bool.and_eq_true, decide_eq_true_eq] at held
      rw [isBlank_of_sparesBlanks spares c held.1.1 held.1.2] at blank
      cases blank
    · rfl

/-- White space shares no capital with another character. -/
theorem smallVariants_of_isBlank (c : Char) (blank : isBlank c = true) :
    smallVariants (small c) = [c] := by
  have solid : (sharedCapitals.all fun letters => letters.all (!isBlank ·)) = true := by decide
  rw [small_of_isBlank c blank, smallVariants]
  split
  · next letters found =>
    have inside : c ∈ letters := by simpa using List.find?_some found
    have here := List.all_eq_true.mp
      (List.all_eq_true.mp solid letters (List.mem_of_find?_eq_some found)) c inside
    simp [blank] at here
  · rfl

/-- White space is the same letter as no other character. -/
theorem caseKey_of_isBlank (c : Char) (blank : isBlank c = true) : caseKey c = c := by
  rw [caseKey, smallVariants_of_isBlank c blank, List.headD_cons]

/-- No white space is a word character. -/
theorem isWord_of_isBlank (c : Char) (blank : isBlank c = true) : isWord c = false := by
  apply Bool.eq_false_iff.mpr
  intro word
  have solid : isBlank c = false := by
    unfold isWord at word
    split at word
    · have range := range_of_plain c word
      have spares : sparesBlanks 48 122 = true := by decide
      exact isBlank_of_sparesBlanks spares c range.1 range.2
    · obtain ⟨span, listed, first, last⟩ := (covers_eq_true_iff wordSpans c.toNat).mp word
      exact isBlank_of_sparesBlanks (List.all_eq_true.mp wordSpans_spare_blanks span listed) c
        first last
  rw [solid] at blank
  cases blank

end Rulebook.Text

namespace Rulebook.Lint

open Text

/-- A letter of a host name is a word character. -/
theorem isWord_of_isHostLetter (c : Char) (letter : isHostLetter c = true) : isWord c = true :=
  isWord_of_spelled c letter

/-- A character that ends an address is no word character. -/
theorem isWord_of_endsAddress (c : Char) (ends : endsAddress c = true) : isWord c = false := by
  simp only [endsAddress, Bool.or_eq_true, beq_iff_eq] at ends
  rcases ends with (((((blank | rfl) | rfl) | rfl) | rfl) | rfl) | rfl
  · exact isWord_of_isBlank c blank
  all_goals decide

end Rulebook.Lint
