import Rulebook.Document.Field
import Rulebook.Rules.Compile

/-!
# Numbers within the digit limit

A number is read from at most as many digits as the limit allows, so it can be written
again. This holds for the numbers in documents and for the limits that published rules
state, with one exception: the age of an account is multiplied by the days of its unit
after it was read.
-/

namespace Rulebook.Decimal

/-- Digits spell less than the next power of ten. -/
theorem valueOf_lt (digits : List Nat) (single : ∀ digit ∈ digits, digit < 10) :
    valueOf digits < tenTo digits.length := by
  have grows : ∀ (rest : List Nat) (value : Nat), (∀ digit ∈ rest, digit < 10) →
      rest.foldl (fun value digit => 10 * value + digit) value < (value + 1) * tenTo rest.length := by
    intro rest
    induction rest with
    | nil =>
      intro value _
      simp [tenTo]
    | cons digit rest inductionHypothesis =>
      intro value single
      have small := single digit List.mem_cons_self
      have step := inductionHypothesis (10 * value + digit)
        fun other member => single other (List.mem_cons_of_mem _ member)
      rw [List.foldl_cons, List.length_cons, tenTo_succ]
      calc rest.foldl (fun value digit => 10 * value + digit) (10 * value + digit)
          < (10 * value + digit + 1) * tenTo rest.length := step
        _ ≤ ((value + 1) * 10) * tenTo rest.length := Nat.mul_le_mul_right _ (by omega)
        _ = (value + 1) * (tenTo rest.length * 10) := by
          rw [Nat.mul_assoc, Nat.mul_comm 10]
  have whole := grows digits 0 single
  rwa [Nat.zero_add, Nat.one_mul] at whole

/-- Powers of ten grow. -/
theorem tenTo_le (small large : Nat) (ordered : small ≤ large) : tenTo small ≤ tenTo large :=
  Nat.pow_le_pow_right (by decide) ordered

/-- Words of 64 bits are within the digit limit. -/
theorem wordLimit_le : wordLimit ≤ tenTo digitLimit := by
  calc wordLimit = Nat.pow 2 63 := rfl
    _ ≤ tenTo 63 := Nat.pow_le_pow_left (by decide) 63
    _ ≤ tenTo digitLimit := tenTo_le 63 digitLimit (by decide)

/-- A number of few digits can be written. -/
theorem isShort_valueOf (digits : List Nat) (single : ∀ digit ∈ digits, digit < 10)
    (few : digits.length ≤ digitLimit) : isShort (valueOf digits) = true := by
  have below := Nat.lt_of_lt_of_le (valueOf_lt digits single) (tenTo_le _ _ few)
  simpa [isShort] using below

/-- A run of digits is no longer than its text. -/
theorem digitRunFrom_bounds (cs : List Char) (afterDigit : Bool) :
    (∀ digit ∈ (digitRunFrom afterDigit cs).1, digit < 10) ∧
      (digitRunFrom afterDigit cs).1.length ≤ cs.length := by
  induction cs generalizing afterDigit with
  | nil => simp [digitRunFrom]
  | cons c rest inductionHypothesis =>
    rw [digitRunFrom]
    split
    · next digit =>
      obtain ⟨single, length⟩ := inductionHypothesis true
      have value : c.toNat - 48 < 10 := by
        simp [Char.isDigit, UInt32.le_iff_toNat_le] at digit
        omega
      refine ⟨?_, by simpa using length⟩
      intro digit member
      rcases List.mem_cons.mp member with rfl | behind
      · exact value
      · exact single digit behind
    · split
      · obtain ⟨single, length⟩ := inductionHypothesis false
        exact ⟨single, Nat.le_succ_of_le length⟩
      · simp

/-- The denominator of a magnitude is a power of two. -/
theorem Binary.den_pos (magnitude : Binary) : 0 < magnitude.den := twoTo_pos _

/-- Scaling by a positive number keeps an order. -/
theorem compare_mul_right (first second : Int) (scale : Nat) (positive : 0 < scale) :
    compare (first * scale) (second * scale) = compare first second := by
  have scaled : (0 : Int) < scale := by omega
  rcases Int.lt_trichotomy first second with below | rfl | above
  · rw [Int.compare_eq_lt.mpr below,
      Int.compare_eq_lt.mpr (Int.mul_lt_mul_of_pos_right below scaled)]
  · rw [Int.compare_eq_eq.mpr rfl, Int.compare_eq_eq.mpr rfl]
  · rw [Int.compare_eq_gt.mpr above,
      Int.compare_eq_gt.mpr (Int.mul_lt_mul_of_pos_right above scaled)]

/-- A machine number without a fraction compares with integers as the integer that it is. -/
theorem compareIntFloat_of_whole (count whole : Int) (x : Float) (cut : truncate? x = some whole)
    (noFraction : isWhole x = true) : compareIntFloat count x = some (compare count whole) := by
  unfold truncate? at cut
  unfold isWhole at noFraction
  unfold compareIntFloat
  cases reading : readFloat x with
  | finite negative magnitude =>
    rw [reading] at cut noFraction
    obtain rfl := Option.some.inj cut
    have divides : magnitude.num = magnitude.num / magnitude.den * magnitude.den := by
      have split := Nat.div_add_mod' magnitude.num magnitude.den
      rw [beq_iff_eq.mp noFraction] at split
      omega
    have scaled : (if negative = true then -(magnitude.num : Int) else magnitude.num) =
        (if negative = true then -((magnitude.num / magnitude.den : Nat) : Int)
          else (magnitude.num / magnitude.den : Nat)) * (magnitude.den : Int) := by
      have whole : (magnitude.num : Int) =
          ((magnitude.num / magnitude.den : Nat) : Int) * (magnitude.den : Int) := by
        exact_mod_cast divides
      split
      · rw [Int.neg_mul, ← whole]
      · exact whole
    dsimp only
    rw [scaled, compare_mul_right _ _ _ magnitude.den_pos]
  | infinite negative =>
    rw [reading] at cut
    cases cut
  | notANumber =>
    rw [reading] at cut
    cases cut

/-- A sign is at most one character. -/
theorem readSign_length (cs : List Char) : (readSign cs).2.length ≤ cs.length := by
  unfold readSign
  split <;> simp

end Rulebook.Decimal

namespace Rulebook.Document

open Decimal

/-- The part before the point is no longer than the text. -/
theorem wholePart?_length (cs whole : List Char) (found : wholePart? cs = some whole) :
    whole.length ≤ cs.length := by
  unfold wholePart? at found
  split at found
  · obtain rfl := Option.some.inj found
    exact Nat.le_refl _
  · split at found
    · obtain rfl := Option.some.inj found
      exact (List.takeWhile_sublist _).length_le
    · cases found

/-- An integer that is read from a short text can be written. -/
theorem isShort_of_integerText? (s : String) (value : Int) (found : integerText? s = some value)
    (few : (Text.trimPadding s.toList).length ≤ digitLimit) : isShort value = true := by
  simp only [integerText?, Option.bind_eq_bind, Option.bind_eq_some_iff] at found
  obtain ⟨whole, part, read⟩ := found
  obtain ⟨single, length⟩ := digitRunFrom_bounds (readSign whole).2 false
  have room := readSign_length whole
  have inside := wholePart?_length _ _ part
  have short := isShort_valueOf (digitRun (readSign whole).2).1 single
    (by unfold digitRun; omega)
  split at read
  · cases read
  · obtain rfl := Option.some.inj read
    split
    · simpa [isShort] using short
    · exact short

/-- An integer that is read from a value that can be written can be written, too. -/
theorem isShort_of_readInteger (path : Path) (value : Json) (whole : Int)
    (storable : ∀ inner, value = .int inner → isShort inner = true)
    (found : readInteger path value = .ok whole) : isShort whole = true := by
  unfold readInteger at found
  split at found
  · next inner =>
    obtain rfl := Checked.ok.inj found
    exact storable inner rfl
  · obtain rfl := Checked.ok.inj found
    have one : (1 : Nat) < tenTo digitLimit :=
      Nat.lt_of_lt_of_le (by decide : 1 < wordLimit) wordLimit_le
    split <;> simp [isShort] <;> omega
  · split at found
    · cases found
    · split at found
      · cases found
      · split at found
        · next word =>
          obtain rfl := Checked.ok.inj found
          simpa [isShort] using Nat.lt_of_lt_of_le word wordLimit_le
        · cases found
  · next text =>
    split at found
    · cases found
    · next few =>
      split at found
      · next read =>
        obtain rfl := Checked.ok.inj found
        exact isShort_of_integerText? text _ read (Nat.le_of_not_lt few)
      · cases found
  · cases found

end Rulebook.Document

namespace Rulebook.Extract

open Decimal

/-- Digits of every script are below ten. -/
theorem digitValue?_lt (c : Char) (digit : Nat) (found : Text.digitValue? c = some digit) :
    digit < 10 := by
  unfold Text.digitValue? at found
  split at found
  · split at found
    · next plain =>
      obtain rfl := Option.some.inj found
      simp [Char.isDigit, UInt32.le_iff_toNat_le] at plain
      have zero : '0'.toNat = 48 := rfl
      omega
    · cases found
  · obtain ⟨start, listed, rfl⟩ := Option.map_eq_some_iff.mp found
    have inside := List.find?_some listed
    simp at inside
    omega

/-- A number that is found in prose can be written. -/
theorem isShort_of_numberOf? (digits : List Char) (number : Nat)
    (found : numberOf? digits = some number) : isShort (Int.ofNat number) = true := by
  unfold numberOf? at found
  dsimp only at found
  split at found
  · cases found
  · next few =>
    obtain rfl := Option.some.inj found
    refine isShort_valueOf _ ?_ (Nat.le_of_not_lt few)
    intro digit member
    obtain ⟨c, -, value⟩ := List.mem_filterMap.mp member
    exact digitValue?_lt c digit value

/-- A limit on a length can be written. -/
theorem isShort_of_firstNumber? (pattern : Pattern) (text : String) (number : Nat)
    (found : firstNumber? pattern text = some number) : isShort (Int.ofNat number) = true := by
  simp only [firstNumber?, Option.bind_eq_bind, Option.bind_eq_some_iff] at found
  obtain ⟨-, -, digits, -, read⟩ := found
  exact isShort_of_numberOf? digits number read

/-- A minimum of karma can be written. -/
theorem isShort_of_minKarma? (text : String) (number : Nat)
    (found : minKarma? text = some number) : isShort (Int.ofNat number) = true := by
  simp only [minKarma?, Option.bind_eq_bind, Option.bind_eq_some_iff] at found
  obtain ⟨-, -, digits, -, read⟩ := found
  exact isShort_of_numberOf? _ number read

end Rulebook.Extract
