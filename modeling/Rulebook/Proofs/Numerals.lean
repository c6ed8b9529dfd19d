import Mathlib.Data.List.Basic
import Rulebook.Extract.Limit
import Rulebook.Proofs.Moments
import Rulebook.Proofs.Printing

/-!
# Numbers written with commas

A number is written in plain digits or with a comma before each group of three of them. Both
ways show the same digits, and both are numerals: digits and commas, with a digit at either
end. The digits before the first comma are those of `leading`.

In a text with exactly one number, a position is known from the digits around it. A stretch
without digits behind some other character ends before the numeral, and a run of digits in
front of some other character ends behind it.
-/

namespace Rulebook.Extract

open Calendar Decimal

/-- A number with a comma before each group of three digits. -/
def withCommas (number : Nat) : List Char :=
  if number < 1000 then Nat.toDigits 10 number
  else withCommas (number / 1000) ++ ',' :: padded 3 (number % 1000)

/-- The text of a number with commas. -/
def commaText (number : Nat) : String := String.ofList (withCommas number)

/-- The number that stands before the first comma. -/
def leading (number : Nat) : Nat :=
  if number < 1000 then number else leading (number / 1000)

/-- The values of the digits of a text. -/
def digitValues (text : List Char) : List Nat := text.filterMap Text.digitValue?

/-- True of the characters of a numeral. -/
def isNumeral (c : Char) : Bool := c.isDigit || c == ','

/-- A text without a digit of any script. -/
def Digitless (text : List Char) : Prop := ∀ c ∈ text, Text.isDigit c = false

instance (text : List Char) : Decidable (Digitless text) :=
  decidable_of_iff (text.all (!Text.isDigit ·) = true) (by simp [Digitless])

/-- Digits and commas with a digit at either end. -/
structure Numeral (word : List Char) : Prop where
  within : ∀ c ∈ word, isNumeral c = true
  first : ∃ digit rest, word = digit :: rest ∧ digit.isDigit = true
  last : ∃ rest digit, word = rest ++ [digit] ∧ digit.isDigit = true

theorem Numeral.ne_nil {word : List Char} (numeral : Numeral word) : word ≠ [] := by
  obtain ⟨digit, rest, rfl, -⟩ := numeral.first
  exact List.cons_ne_nil digit rest

theorem toNat_lt_of_plain (c : Char) (plain : c.isDigit = true) : c.toNat < 128 := by
  simp [Char.isDigit, UInt32.le_iff_toNat_le] at plain
  exact Nat.lt_of_le_of_lt plain.2 (by decide)

theorem isDigit_of_plain (c : Char) (plain : c.isDigit = true) : Text.isDigit c = true := by
  simp [Text.isDigit, Text.digitValue?, toNat_lt_of_plain c plain, plain]

/-- A text that begins with a numeral begins with a digit. -/
theorem Numeral.begins {word : List Char} (numeral : Numeral word) (after : List Char) :
    ∃ d rest, word ++ after = d :: rest ∧ Text.isDigit d = true := by
  obtain ⟨digit, rest, rfl, plain⟩ := numeral.first
  exact ⟨digit, rest ++ after, rfl, isDigit_of_plain digit plain⟩

/-- What is followed by a character that a run does not have covers the run. -/
theorem exists_append_of_notMem {run rest gap further : List Char} {c : Char}
    (split : run ++ rest = gap ++ c :: further) (outside : c ∉ run) :
    ∃ short, gap = run ++ short ∧ rest = short ++ c :: further := by
  rcases List.append_eq_append_iff.mp split with ⟨short, isGap, isRest⟩ | ⟨more, isRun, next⟩
  · exact ⟨short, isGap, isRest⟩
  · cases more with
    | nil => exact ⟨[], by simpa using isRun.symm, next.symm⟩
    | cons d more =>
      obtain ⟨rfl, -⟩ := List.cons_eq_cons.mp next
      exact absurd (isRun ▸ List.mem_append_right gap List.mem_cons_self) outside

theorem digitValues_of_digitless (text : List Char) (digitless : Digitless text) :
    digitValues text = [] :=
  List.filterMap_eq_nil_iff.mpr fun c member => by simpa [Text.isDigit] using digitless c member

/-- A run of digits ends where another character follows. -/
theorem span_digits (digits rest : List Char) (areDigits : ∀ c ∈ digits, Text.isDigit c = true)
    (clear : ∀ c ∈ rest.head?, Text.isDigit c = false) :
    (digits ++ rest).takeWhile Text.isDigit = digits ∧
      (digits ++ rest).dropWhile Text.isDigit = rest := by
  rw [List.takeWhile_append_of_pos areDigits, List.dropWhile_append_of_pos areDigits]
  cases rest with
  | nil => exact ⟨List.append_nil digits, rfl⟩
  | cons c more =>
    have other : ¬ Text.isDigit c = true := by simpa using clear c rfl
    rw [List.takeWhile_cons_of_neg other, List.dropWhile_cons_of_neg other]
    exact ⟨List.append_nil digits, rfl⟩

/-- A number of at least a thousand ends with three digits of its own. -/
theorem toDigits_eq_append_padded (number : Nat) (large : 1000 ≤ number) :
    Nat.toDigits 10 number = Nat.toDigits 10 (number / 1000) ++ padded 3 (number % 1000) := by
  have tens : number / 10 / 10 / 10 = number / 1000 := by omega
  rw [Nat.toDigits_of_base_le (by decide) (by omega : 10 ≤ number),
    Nat.toDigits_of_base_le (by decide) (by omega : 10 ≤ number / 10),
    Nat.toDigits_of_base_le (by decide) (by omega : 10 ≤ number / 10 / 10), tens,
    padded_succ 2 _ (by decide), padded_two _ (by omega)]
  have first : number / 10 / 10 % 10 = number % 1000 / 10 / 10 := by omega
  have second : number / 10 % 10 = number % 1000 / 10 % 10 := by omega
  have third : number % 10 = number % 1000 % 10 := by omega
  rw [first, second, third]
  simp

/-- Plain digits are a numeral. -/
theorem numeral_of_digits (digits : List Char) (some : digits ≠ [])
    (plain : ∀ c ∈ digits, c.isDigit = true) : Numeral digits where
  within c member := by simp [isNumeral, plain c member]
  first := by
    cases digits with
    | nil => exact absurd rfl some
    | cons digit rest => exact ⟨digit, rest, rfl, plain digit List.mem_cons_self⟩
  last := ⟨digits.dropLast, digits.getLast some, (List.dropLast_concat_getLast some).symm,
    plain _ (List.getLast_mem some)⟩

theorem plain_toDigits (number : Nat) : ∀ c ∈ Nat.toDigits 10 number, c.isDigit = true :=
  fun _ member => Nat.isDigit_of_mem_toDigits (by decide) (by decide) member

theorem numeral_toDigits (number : Nat) : Numeral (Nat.toDigits 10 number) :=
  numeral_of_digits _ (List.ne_nil_of_length_pos Nat.length_toDigits_pos) (plain_toDigits number)

/-- A numeral may be continued with a comma and a numeral. -/
theorem Numeral.comma {word other : List Char} (front : Numeral word) (back : Numeral other) :
    Numeral (word ++ ',' :: other) where
  within := by
    simpa [or_imp, forall_and] using ⟨front.within, rfl, back.within⟩
  first := by
    obtain ⟨digit, rest, rfl, plain⟩ := front.first
    exact ⟨digit, _, rfl, plain⟩
  last := by
    obtain ⟨rest, digit, rfl, plain⟩ := back.last
    exact ⟨word ++ ',' :: rest, digit, by simp, plain⟩

/-- The last three digits of a number, with zeros in front, are digits. -/
theorem lastThree_digits (number : Nat) :
    ∀ c ∈ padded 3 (number % 1000), c.isDigit = true :=
  (padded_digits 2 (number % 1000) (Nat.mod_lt _ (by decide))).2.1

theorem numeral_lastThree (number : Nat) : Numeral (padded 3 (number % 1000)) := by
  apply numeral_of_digits _ _ (lastThree_digits number)
  intro none
  have length := (padded_digits 2 (number % 1000) (Nat.mod_lt _ (by decide))).1
  simp [none] at length

theorem numeral_withCommas (number : Nat) : Numeral (withCommas number) := by
  induction number using withCommas.induct with
  | case1 number small =>
    rw [withCommas, if_pos small]
    exact numeral_toDigits number
  | case2 number large inductionHypothesis =>
    rw [withCommas, if_neg large]
    exact inductionHypothesis.comma (numeral_lastThree number)

/-- Commas change no digit. -/
theorem digitValues_withCommas (number : Nat) :
    digitValues (withCommas number) = digitValues (Nat.toDigits 10 number) := by
  induction number using withCommas.induct with
  | case1 number small => rw [withCommas, if_pos small]
  | case2 number large inductionHypothesis =>
    rw [withCommas, if_neg large, toDigits_eq_append_padded number (Nat.le_of_not_lt large)]
    simp only [digitValues] at inductionHypothesis ⊢
    rw [List.filterMap_append, List.filterMap_append, inductionHypothesis]
    rfl

/-- In front of the first comma stand the digits of the leading number. -/
theorem exists_withCommas_eq (number : Nat) :
    ∃ rest, withCommas number = Nat.toDigits 10 (leading number) ++ rest ∧
      ∀ c ∈ rest.head?, c = ',' := by
  induction number using withCommas.induct with
  | case1 number small =>
    rw [withCommas, if_pos small, leading, if_pos small]
    exact ⟨[], (List.append_nil _).symm, by simp⟩
  | case2 number large inductionHypothesis =>
    obtain ⟨rest, split, comma⟩ := inductionHypothesis
    rw [withCommas, if_neg large, leading, if_neg large, split, List.append_assoc]
    refine ⟨_, rfl, ?_⟩
    intro c first
    cases rest with
    | nil => exact (Option.some_inj.mp first).symm
    | cons d more => exact comma c first

/-- The leading number has at most three digits. -/
theorem leading_lt (number : Nat) : leading number < 1000 := by
  induction number using leading.induct with
  | case1 number small => rwa [leading, if_pos small]
  | case2 number large inductionHypothesis => rwa [leading, if_neg large]

/-- Digits of any script are read as the number of their values, if they are not too many. -/
theorem numberOf?_of_digits (digits : List Char) (areDigits : ∀ c ∈ digits, Text.isDigit c = true) :
    numberOf? digits =
      if digitLimit < digits.length then none else some (valueOf (digitValues digits)) := by
  have length : (digits.filterMap Text.digitValue?).length = digits.length :=
    List.filterMap_length_eq_length.mpr areDigits
  unfold numberOf?
  dsimp only
  rw [length]
  rfl

/-- Plain digits are read as the number that they spell. -/
theorem numberOf?_of_plain (digits : List Char) (plain : ∀ c ∈ digits, c.isDigit = true) :
    numberOf? digits =
      if digitLimit < digits.length then none else some (Nat.ofDigitChars 10 digits 0) := by
  have value (c : Char) (member : c ∈ digits) : Text.digitValue? c = some (c.toNat - 48) := by
    simp only [Text.digitValue?, toNat_lt_of_plain c (plain c member), plain c member, if_true]
    rfl
  have values : digitValues digits = digits.map (·.toNat - 48) :=
    List.filterMap_eq_map_iff_forall_eq_some.mpr value
  rw [numberOf?_of_digits digits fun c member => isDigit_of_plain c (plain c member), values,
    valueOf, List.foldl_map]
  rfl

/-- What the digits of a number are read as is that number. -/
theorem eq_of_numberOf?_toDigits (number value : Nat)
    (found : numberOf? (Nat.toDigits 10 number) = some value) : value = number := by
  rw [numberOf?_of_plain _ (plain_toDigits number),
    Nat.ofDigitChars_ten_toDigits] at found
  split at found
  · cases found
  · exact (Option.some.inj found).symm

/-- A number of at most three digits is read. -/
theorem numberOf?_toDigits (number : Nat) (small : number < 1000) :
    numberOf? (Nat.toDigits 10 number) = some number := by
  have short : (Nat.toDigits 10 number).length ≤ 3 :=
    (Nat.length_toDigits_le_iff (by decide) (by decide)).mpr small
  rw [numberOf?_of_plain _ (plain_toDigits number),
    Nat.ofDigitChars_ten_toDigits, if_neg (by unfold digitLimit; omega)]

/-- The last three digits of a number are read, whatever zeros stand in front. -/
theorem numberOf?_lastThree (number : Nat) :
    numberOf? (padded 3 (number % 1000)) = some (number % 1000) := by
  have length := (padded_digits 2 (number % 1000) (Nat.mod_lt _ (by decide))).1
  rw [numberOf?_of_plain _ (lastThree_digits number), length, if_neg (by decide), padded,
    Nat.ofDigitChars_append, Nat.ofDigitChars_replicate_zero, Nat.mul_zero,
    Nat.ofDigitChars_ten_toDigits]

/-- A text with exactly one number, which is a numeral. -/
structure OneNumber (before word after : List Char) : Prop where
  numeral : Numeral word
  quietBefore : Digitless before
  quietAfter : Digitless after

namespace OneNumber

variable {before word after : List Char}

/-- Digits stand in the numeral. -/
theorem within_of_digit (one : OneNumber before word after) (position : Nat) (d : Char)
    (found : (before ++ word ++ after)[position]? = some d) (digit : Text.isDigit d = true) :
    before.length ≤ position ∧ position < before.length + word.length := by
  have notIn (text : List Char) (quiet : Digitless text) (index : Nat) :
      text[index]? ≠ some d := by
    intro there
    simp [quiet d (List.mem_of_getElem? there)] at digit
  constructor
  · apply Nat.le_of_not_lt
    intro early
    apply notIn before one.quietBefore position
    rwa [List.append_assoc, List.getElem?_append_left early] at found
  · apply Nat.lt_of_not_le
    intro late
    apply notIn after one.quietAfter (position - (before ++ word).length)
    rwa [List.getElem?_append_right (by simpa using late)] at found

/-- Characters that no numeral has stand around it. -/
theorem around_of_other (one : OneNumber before word after) (position : Nat) (c : Char)
    (found : (before ++ word ++ after)[position]? = some c) (other : isNumeral c = false) :
    position < before.length ∨ before.length + word.length ≤ position := by
  by_contra inside
  rw [not_or, Nat.not_lt, Nat.not_le] at inside
  obtain ⟨late, early⟩ := inside
  rw [List.append_assoc, List.getElem?_append_right (by omega),
    List.getElem?_append_left (by omega)] at found
  simp [one.numeral.within c (List.mem_of_getElem? found)] at other

/-- A stretch without digits that follows a character outside the numeral and ends before a
digit ends before the numeral. -/
theorem eq_of_gap (one : OneNumber before word after) (front gap rest : List Char) (c d : Char)
    (other : isNumeral c = false) (quiet : Digitless gap) (digit : Text.isDigit d = true)
    (split : before ++ (word ++ after) = front ++ [c] ++ gap ++ d :: rest) :
    before = front ++ [c] ++ gap ∧ word ++ after = d :: rest := by
  have whole : before ++ word ++ after = front ++ [c] ++ gap ++ d :: rest := by
    rw [List.append_assoc, split]
  have atOther := one.around_of_other front.length c (by rw [whole]; simp) other
  have atDigit := one.within_of_digit (front ++ [c] ++ gap).length d
    (by rw [whole, List.getElem?_append_right (Nat.le_refl _)]; simp) digit
  -- the numeral begins with a digit, so it cannot begin in the stretch
  have fromFirst : (front ++ [c] ++ gap).length ≤ before.length := by
    apply Nat.le_of_not_lt
    intro later
    obtain ⟨first, more, rfl, plain⟩ := one.numeral.first
    have inGap : (front ++ [c] ++ gap ++ d :: rest)[before.length]? = some first := by
      rw [← whole]
      simp
    simp only [List.length_append, List.length_singleton] at atOther atDigit later
    rw [List.getElem?_append_left (by simp; omega),
      List.getElem?_append_right (by simp; omega)] at inGap
    have quietFirst := quiet first (List.mem_of_getElem? inGap)
    simp [isDigit_of_plain first plain] at quietFirst
  exact List.append_inj split (Nat.le_antisymm atDigit.1 fromFirst)

/-- A digit in front of a character outside the numeral is the last one of the numeral. -/
theorem eq_of_digit (one : OneNumber before word after) (front rest : List Char) (d c : Char)
    (digit : Text.isDigit d = true) (other : isNumeral c = false)
    (split : before ++ word ++ after = front ++ [d] ++ c :: rest) :
    before ++ word = front ++ [d] ∧ after = c :: rest := by
  have atDigit := one.within_of_digit front.length d (by rw [split]; simp) digit
  have atOther := one.around_of_other (front ++ [d]).length c
    (by rw [split, List.getElem?_append_right (Nat.le_refl _)]; simp) other
  refine List.append_inj split ?_
  simp only [List.length_append, List.length_singleton] at atOther ⊢
  omega

end OneNumber

theorem toList_toString_nat (number : Nat) :
    (toString number).toList = Nat.toDigits 10 number := by
  rw [Nat.toString_eq_repr, Nat.toList_repr]

/-- Below a thousand there are no commas. -/
theorem commaText_of_lt (number : Nat) (small : number < 1000) :
    commaText number = toString number := by
  rw [← String.toList_inj, commaText, String.toList_ofList, withCommas, if_pos small,
    toList_toString_nat]

theorem toList_commaText (before after : String) (number : Nat) :
    (before ++ commaText number ++ after).toList =
      before.toList ++ (withCommas number ++ after.toList) := by
  simp [commaText]

theorem toList_plainText (before after : String) (number : Nat) :
    (before ++ toString number ++ after).toList =
      before.toList ++ (Nat.toDigits 10 number ++ after.toList) := by
  simp

theorem OneNumber.of_withCommas {before after : List Char} (number : Nat)
    (quietBefore : Digitless before) (quietAfter : Digitless after) :
    OneNumber before (withCommas number) after :=
  ⟨numeral_withCommas number, quietBefore, quietAfter⟩

theorem OneNumber.of_toDigits {before after : List Char} (number : Nat)
    (quietBefore : Digitless before) (quietAfter : Digitless after) :
    OneNumber before (Nat.toDigits 10 number) after :=
  ⟨numeral_toDigits number, quietBefore, quietAfter⟩

/-- Up to the first comma a number with commas shows its leading number. -/
theorem takeWhile_withCommas (number : Nat) (after : List Char) (quiet : Digitless after) :
    (withCommas number ++ after).takeWhile Text.isDigit = Nat.toDigits 10 (leading number) := by
  obtain ⟨rest, split, comma⟩ := exists_withCommas_eq number
  rw [split, List.append_assoc]
  refine (span_digits _ _ (fun c member => isDigit_of_plain c (plain_toDigits _ c member))
    fun c first => ?_).1
  cases rest with
  | nil => exact quiet c (List.mem_of_head? first)
  | cons d more =>
    rw [comma c first]
    decide

theorem takeWhile_toDigits (number : Nat) (after : List Char) (quiet : Digitless after) :
    (Nat.toDigits 10 number ++ after).takeWhile Text.isDigit = Nat.toDigits 10 number :=
  (span_digits _ _ (fun c member => isDigit_of_plain c (plain_toDigits number c member))
    fun c first => quiet c (List.mem_of_head? first)).1

end Rulebook.Extract
