import Rulebook.Proofs.Days
import Rulebook.Proofs.Moments

/-!
# Texts that compare as moments do

A table compares the times of its rows as texts. The texts have the same width for every
moment, each part filled with zeros, the largest part first. So two of them compare as the
wall clocks of their moments do, over the ends of months and years and down to the
microsecond; for moments of universal time that is the order of instants.
-/

namespace Rulebook.Calendar

/-- A text that is smaller in front is smaller, whatever follows. -/
theorem append_lt_append (front other back rest : List Char) (width : front.length = other.length)
    (smaller : front < other) : front ++ back < other ++ rest := by
  induction front generalizing other with
  | nil =>
    cases other with
    | nil => exact absurd smaller (List.lt_irrefl [])
    | cons d other => cases width
  | cons c front inductionHypothesis =>
    cases other with
    | nil => cases width
    | cons d other =>
      rw [List.cons_append, List.cons_append, List.cons_lt_cons_iff]
      rcases List.cons_lt_cons_iff.mp smaller with here | ⟨same, later⟩
      · exact Or.inl here
      · exact Or.inr ⟨same, inductionHypothesis other (Nat.succ.inj width) later⟩

/-- Digits compare as their values. -/
theorem digitChar_lt (first second : Nat) (smaller : first < second) (single : second < 10) :
    first.digitChar < second.digitChar := by
  have each : ∀ second < 10, ∀ first < second, first.digitChar < second.digitChar := by decide
  exact each second single first smaller

/-- Numbers of the same width compare as texts. -/
theorem padded_lt (width first second : Nat) (smaller : first < second)
    (fits : second < Decimal.tenTo (width + 1)) :
    padded (width + 1) first < padded (width + 1) second := by
  induction width generalizing first second with
  | zero =>
    have single : second < 10 := fits
    rw [padded_one first (by omega), padded_one second single, List.cons_lt_cons_iff]
    exact Or.inl (digitChar_lt first second smaller single)
  | succ width inductionHypothesis =>
    rw [Decimal.tenTo_succ] at fits
    have frontFits : second / 10 < Decimal.tenTo (width + 1) := by omega
    rw [padded_succ (width + 1) first (Nat.succ_pos _),
      padded_succ (width + 1) second (Nat.succ_pos _)]
    by_cases front : first / 10 < second / 10
    · have firstFits : first / 10 < Decimal.tenTo (width + 1) := Nat.lt_trans front frontFits
      refine append_lt_append _ _ _ _ ?_ (inductionHypothesis _ _ front frontFits)
      rw [(padded_digits width _ firstFits).1, (padded_digits width _ frontFits).1]
    · have same : first / 10 = second / 10 := by omega
      have last := digitChar_lt (first % 10) (second % 10) (by omega) (Nat.mod_lt _ (by decide))
      rw [same]
      exact List.append_left_lt (List.cons_lt_cons_iff.mpr (Or.inl last))

/-- A text that begins with a number of full width is smaller when the number is, or when the
numbers are the same and the rest is smaller. -/
theorem padded_append_lt (width first second : Nat) (back rest : List Char)
    (firstFits : first < Decimal.tenTo (width + 1)) (secondFits : second < Decimal.tenTo (width + 1))
    (smaller : first < second ∨ first = second ∧ back < rest) :
    padded (width + 1) first ++ back < padded (width + 1) second ++ rest := by
  rcases smaller with front | ⟨rfl, later⟩
  · refine append_lt_append _ _ _ _ ?_ (padded_lt width first second front secondFits)
    rw [(padded_digits width _ firstFits).1, (padded_digits width _ secondFits).1]
  · exact List.append_left_lt later

/-- The same mark in front makes no difference. -/
theorem cons_lt_cons (mark : Char) (back rest : List Char) (smaller : back < rest) :
    mark :: back < mark :: rest :=
  List.cons_lt_cons_iff.mpr (Or.inr ⟨rfl, smaller⟩)

/-- Earlier dates have smaller texts, and so have the same dates with smaller texts behind. -/
theorem Date.chars_append_lt (first second : Date) (back rest : List Char)
    (smaller : first.Before second ∨ first = second ∧ back < rest) :
    first.chars ++ back < second.chars ++ rest := by
  obtain ⟨firstYear, firstMonth, firstDay⟩ := first.bounds
  obtain ⟨secondYear, secondMonth, secondDay⟩ := second.bounds
  have wide : Decimal.tenTo (1 + 1) = 100 := rfl
  simp only [Date.chars, List.append_assoc, List.cons_append]
  rcases smaller with (year | ⟨year, month | ⟨month, day⟩⟩) | ⟨rfl, later⟩
  · exact padded_append_lt 3 _ _ _ _ firstYear secondYear (Or.inl year)
  · refine padded_append_lt 3 _ _ _ _ firstYear secondYear (Or.inr ⟨year, cons_lt_cons _ _ _ ?_⟩)
    exact padded_append_lt 1 _ _ _ _ (by omega) (by omega) (Or.inl month)
  · refine padded_append_lt 3 _ _ _ _ firstYear secondYear (Or.inr ⟨year, cons_lt_cons _ _ _ ?_⟩)
    refine padded_append_lt 1 _ _ _ _ (by omega) (by omega) (Or.inr ⟨month, cons_lt_cons _ _ _ ?_⟩)
    exact padded_append_lt 1 _ _ _ _ (by omega) (by omega) (Or.inl day)
  · exact List.append_left_lt (cons_lt_cons _ _ _
      (List.append_left_lt (cons_lt_cons _ _ _ (List.append_left_lt later))))

/-- Earlier times of a day have smaller texts, down to the microsecond. -/
theorem clockChars_lt (first second : Nat) (smaller : first < second)
    (within : second < dayMicros) :
    clockChars first ++ fractionChars first < clockChars second ++ fractionChars second := by
  unfold dayMicros at within
  have wide : Decimal.tenTo (1 + 1) = 100 := rfl
  have wider : Decimal.tenTo (5 + 1) = 1000000 := rfl
  simp only [clockChars, fractionChars, List.append_assoc, List.cons_append]
  have hours : first / 1000000 / 3600 ≤ second / 1000000 / 3600 := by omega
  by_cases hour : first / 1000000 / 3600 < second / 1000000 / 3600
  · exact padded_append_lt 1 _ _ _ _ (by omega) (by omega) (Or.inl hour)
  have sameHour : first / 1000000 / 3600 = second / 1000000 / 3600 := by omega
  refine padded_append_lt 1 _ _ _ _ (by omega) (by omega)
    (Or.inr ⟨sameHour, cons_lt_cons _ _ _ ?_⟩)
  by_cases minute : first / 1000000 / 60 % 60 < second / 1000000 / 60 % 60
  · exact padded_append_lt 1 _ _ _ _ (by omega) (by omega) (Or.inl minute)
  have sameMinute : first / 1000000 / 60 % 60 = second / 1000000 / 60 % 60 := by omega
  refine padded_append_lt 1 _ _ _ _ (by omega) (by omega)
    (Or.inr ⟨sameMinute, cons_lt_cons _ _ _ ?_⟩)
  by_cases seconds : first / 1000000 % 60 < second / 1000000 % 60
  · exact padded_append_lt 1 _ _ _ _ (by omega) (by omega) (Or.inl seconds)
  have sameSecond : first / 1000000 % 60 = second / 1000000 % 60 := by omega
  refine padded_append_lt 1 _ _ _ _ (by omega) (by omega)
    (Or.inr ⟨sameSecond, cons_lt_cons _ _ _ ?_⟩)
  exact padded_lt 5 _ _ (by omega) (by omega)

namespace Moment

/-- A clock that shows less has a smaller text. -/
theorem stamp_lt_of_wall_lt (first second : Moment) (smaller : first.wall < second.wall) :
    first.stamp < second.stamp := by
  have firstTime := first.withinDay
  have secondTime := second.withinDay
  unfold wall at smaller
  unfold stamp
  apply Date.chars_append_lt
  rcases Date.before_or_eq first.date second.date with before | same | after
  · exact Or.inl before
  · rw [same] at smaller
    exact Or.inr ⟨same, cons_lt_cons _ _ _ (clockChars_lt _ _ (by omega) secondTime)⟩
  · have days := Date.dayNumber_lt_of_before _ _ after
    have later : (second.date.dayNumber + 1) * dayMicros ≤ first.date.dayNumber * dayMicros :=
      Nat.mul_le_mul_right _ days
    rw [Nat.succ_mul] at later
    omega

/-- Clocks that show the same have the same text. -/
theorem stamp_eq_of_wall_eq (first second : Moment) (same : first.wall = second.wall) :
    first.stamp = second.stamp := by
  obtain ⟨firstDay, firstTime⟩ := first.wall_split
  obtain ⟨secondDay, secondTime⟩ := second.wall_split
  have dates : first.date = second.date :=
    Date.dayNumber_injective _ _ (by rw [← firstDay, ← secondDay, same])
  have times : first.micros = second.micros := by rw [← firstTime, ← secondTime, same]
  rw [stamp, stamp, dates, times]

/-- The texts of two moments compare as what their clocks show. -/
theorem stamp_lt_iff (first second : Moment) :
    first.stamp < second.stamp ↔ first.wall < second.wall := by
  constructor
  · intro smaller
    rcases Nat.lt_trichotomy first.wall second.wall with before | same | after
    · exact before
    · rw [stamp_eq_of_wall_eq _ _ same] at smaller
      exact absurd smaller (List.lt_irrefl _)
    · exact absurd smaller (List.lt_asymm (stamp_lt_of_wall_lt _ _ after))
  · exact stamp_lt_of_wall_lt _ _

end Moment

end Rulebook.Calendar
