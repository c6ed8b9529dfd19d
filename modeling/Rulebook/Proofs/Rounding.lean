import Rulebook.Decimal.Binary

/-!
# Where double precision ends

A quotient is rounded to double precision as long as the result is no larger than the largest
finite magnitude. The limit lies half a unit above that magnitude, and the tie itself is beyond
it, because it would be rounded to the even significand, which is the next power of two.
-/

namespace Rulebook.Decimal

/-- Powers of two multiply. -/
theorem twoTo_add (first second : Nat) : twoTo (first + second) = twoTo first * twoTo second :=
  Nat.pow_add 2 first second

/-- Powers of two grow. -/
theorem twoTo_le (small large : Nat) (ordered : small ≤ large) : twoTo small ≤ twoTo large :=
  Nat.pow_le_pow_right (by decide) ordered

/-- A rounded quotient is the whole quotient when the rest is less than half of the divisor or
a tie that leaves it even, and one more otherwise. -/
theorem roundDiv_cases (num den : Nat) :
    (roundDiv num den = num / den ∧
        (2 * (num % den) < den ∨ 2 * (num % den) = den ∧ num / den % 2 = 0)) ∨
      (roundDiv num den = num / den + 1 ∧
        (den < 2 * (num % den) ∨ 2 * (num % den) = den ∧ num / den % 2 = 1)) := by
  unfold roundDiv
  dsimp only
  split
  · next less => exact Or.inl ⟨rfl, Or.inl less⟩
  · split
    · next more => exact Or.inr ⟨rfl, Or.inl more⟩
    · have tie : 2 * (num % den) = den := by omega
      split
      · next even => exact Or.inl ⟨rfl, Or.inr ⟨tie, beq_iff_eq.mp even⟩⟩
      · next odd =>
        have notEven : ¬ num / den % 2 = 0 := fun even => odd (beq_iff_eq.mpr even)
        exact Or.inr ⟨rfl, Or.inr ⟨tie, by omega⟩⟩

/-- A quotient rounds to an even number, or to more, from half a unit below it on. -/
theorem le_roundDiv_iff (num den bound : Nat) (positive : 0 < den) (even : bound % 2 = 0) :
    bound ≤ roundDiv num den ↔ 2 * (bound * den) ≤ 2 * num + den := by
  have split := Nat.div_add_mod num den
  have small := Nat.mod_lt num positive
  have rounded := roundDiv_cases num den
  generalize roundDiv num den = result at rounded ⊢
  generalize num / den = quotient at split rounded
  generalize num % den = rest at split small rounded
  rw [Nat.mul_comm] at split
  rcases Nat.lt_trichotomy (quotient + 1) bound with below | rfl | above
  · have distance : (quotient + 2) * den ≤ bound * den := Nat.mul_le_mul_right den (by omega)
    rw [Nat.add_mul] at distance
    omega
  · rw [Nat.add_mul]
    omega
  · have distance : bound * den ≤ quotient * den := Nat.mul_le_mul_right den (by omega)
    omega

/-- A number that reaches another, shifted, has as many bits more. -/
theorem log2_of_reaches (num den places : Nat) (denPositive : den ≠ 0)
    (reaches : den * twoTo places ≤ num) : Nat.log2 den + places ≤ Nat.log2 num := by
  have powers : twoTo (Nat.log2 den) * twoTo places ≤ den * twoTo places :=
    Nat.mul_le_mul_right _ (Nat.log2_self_le denPositive)
  rw [← twoTo_add] at powers
  have positive := twoTo_pos (Nat.log2 den + places)
  exact (Nat.le_log2 (by omega)).mpr (Nat.le_trans powers reaches)

/-- A number that has more than so many bits more reaches the other, shifted by as many. -/
theorem reaches_of_log2 (num den places : Nat) (numPositive : num ≠ 0)
    (more : Nat.log2 den + places < Nat.log2 num) : den * twoTo places ≤ num := by
  have powers : den * twoTo places ≤ twoTo (Nat.log2 den + 1) * twoTo places :=
    Nat.mul_le_mul_right _ (Nat.le_of_lt Nat.lt_log2_self)
  rw [← twoTo_add] at powers
  have bits : twoTo (Nat.log2 den + 1 + places) ≤ twoTo (Nat.log2 num) :=
    twoTo_le _ _ (by omega)
  exact Nat.le_trans powers (Nat.le_trans bits (Nat.log2_self_le numPositive))

/-- A number that reaches another, shifted, also reaches it with a smaller shift. -/
theorem reaches_of_le (num den fewer more : Nat) (ordered : fewer ≤ more)
    (reaches : den * twoTo more ≤ num) : den * twoTo fewer ≤ num :=
  Nat.le_trans (Nat.mul_le_mul_left den (twoTo_le fewer more ordered)) reaches

/-- The exponent of a rounded quotient is at most a given one exactly when the quotient has at
most 53 bits before the binary point in its unit. -/
theorem quotientExponent_le_iff (num den unit : Nat) (numPositive : num ≠ 0)
    (denPositive : den ≠ 0) :
    quotientExponent num den ≤ unit ↔ num < den * twoTo (unit + 53) := by
  generalize most : unit + 53 = places
  have upper := log2_of_reaches num den places denPositive
  have lower := reaches_of_log2 num den places numPositive
  rw [← Nat.not_le]
  unfold quotientExponent
  by_cases small : Nat.log2 num < Nat.log2 den
  · refine iff_of_true ?_ fun reaches => ?_
    · dsimp only
      split <;> omega
    · have bits := upper reaches
      omega
  · -- The guess is right or one too large, and the comparison tells which.
    obtain ⟨gap, same⟩ := Nat.exists_eq_add_of_le (Nat.le_of_not_lt small)
    have up : ((Nat.log2 num : Int) - Nat.log2 den - 52 + 52).toNat = gap := by omega
    have down : (-((Nat.log2 num : Int) - Nat.log2 den - 52 + 52)).toNat = 0 := by omega
    have one : num * twoTo 0 = num := Nat.mul_one num
    simp only [up, down, one, decide_eq_true_eq]
    by_cases reached : den * twoTo gap ≤ num
    · have shift : den * twoTo places ≤ num ↔ places ≤ gap := by
        refine ⟨fun reaches => ?_, fun ordered => reaches_of_le num den places gap ordered reached⟩
        have bits := upper reaches
        omega
      rw [if_pos reached, shift]
      omega
    · have shift : den * twoTo places ≤ num ↔ places < gap := by
        refine ⟨fun reaches => ?_, fun ordered => lower (by omega)⟩
        have bits := upper reaches
        have other : places ≠ gap := fun equal => reached (equal ▸ reaches)
        omega
      rw [if_neg reached, shift]
      omega

/-- The smallest number that is too large for double precision once it is rounded: half a unit
above the largest finite magnitude. -/
def ceiling : Nat := twoTo 970 * (twoTo 54 - 1)

theorem twoTo_le_ceiling : twoTo (970 + 53) ≤ ceiling := by
  rw [twoTo_add, ceiling]
  exact Nat.mul_le_mul_left _ (by decide)

theorem ceiling_le_twoTo : ceiling ≤ twoTo (971 + 53) := by
  rw [show 971 + 53 = 970 + 54 from rfl, twoTo_add, ceiling]
  exact Nat.mul_le_mul_left _ (by decide)

/-- A quotient of an exponent that is neither certainly small enough nor certainly too large is
rounded to the next power of two exactly when it reaches the ceiling. -/
theorem significand_at_edge (num den : Nat) (positive : 0 < den)
    (below : num < den * twoTo (971 + 53)) :
    roundDiv (num * twoTo 0) (den * twoTo 971) = twoTo 53 ↔ ¬ num < den * ceiling := by
  have one : num * twoTo 0 = num := Nat.mul_one num
  have unit : den * twoTo 971 = den * twoTo 970 * 2 := by
    rw [twoTo_succ, Nat.mul_assoc]
  have power : den * twoTo (971 + 53) = den * twoTo 970 * twoTo 54 := by
    rw [show 971 + 53 = 970 + 54 from rfl, twoTo_add, Nat.mul_assoc]
  have limit : den * ceiling = den * twoTo 970 * (twoTo 54 - 1) := by
    rw [ceiling, Nat.mul_assoc]
  have unitPositive : 0 < den * twoTo 970 := Nat.mul_pos positive (twoTo_pos 970)
  rw [one, unit, limit]
  rw [power] at below
  generalize den * twoTo 970 = half at unitPositive below ⊢
  have reaches := le_roundDiv_iff num (half * 2) (twoTo 53) (by omega) rfl
  have least := two_mul_roundDiv_le num (half * 2)
  generalize roundDiv num (half * 2) = significand at reaches least ⊢
  have bits : twoTo 53 = 9007199254740992 := rfl
  have moreBits : twoTo 54 = 18014398509481984 := rfl
  rw [bits] at reaches ⊢
  rw [moreBits] at below ⊢
  have most : significand ≤ 9007199254740992 := by
    apply Nat.le_of_not_lt
    intro beyond
    have large : half * 2 * 9007199254740993 ≤ half * 2 * significand :=
      Nat.mul_le_mul_left _ beyond
    omega
  omega

/-- A quotient can be rounded to double precision exactly when it lies below the ceiling. -/
theorem Binary.exists_nearest?_iff (num den : Nat) (positive : 0 < den) :
    (∃ result, Binary.nearest? num den = some result) ↔ num < den * ceiling := by
  by_cases zero : num = 0
  · subst zero
    refine iff_of_true ⟨_, rfl⟩ (Nat.mul_pos positive (Nat.mul_pos (twoTo_pos 970) ?_))
    decide
  · have low := quotientExponent_le_iff num den 970 zero (by omega)
    have high := quotientExponent_le_iff num den 971 zero (by omega)
    have atEdge := significand_at_edge num den positive
    unfold nearest?
    rw [if_neg (by simpa using zero)]
    dsimp only
    generalize quotientExponent num den = exponent at low high ⊢
    by_cases fits : num < den * twoTo (971 + 53)
    · by_cases small : num < den * twoTo (970 + 53)
      · have bound := low.mpr small
        have inside : den * twoTo (970 + 53) ≤ den * ceiling :=
          Nat.mul_le_mul_left den twoTo_le_ceiling
        refine iff_of_true ?_ (Nat.lt_of_lt_of_le small inside)
        rw [if_neg]
        · exact ⟨_, rfl⟩
        · split
          · show ¬ 971 < exponent + 1
            omega
          · show ¬ 971 < exponent
            omega
      · have same : exponent = 971 := by
          have bound := high.mpr fits
          have other := mt low.mp small
          omega
        subst same
        rw [show (-(971 : Int)).toNat = 0 from rfl, show (971 : Int).toNat = 971 from rfl]
        by_cases full : roundDiv (num * twoTo 0) (den * twoTo 971) = twoTo 53
        · rw [if_pos (beq_iff_eq.mpr full)]
          exact iff_of_false (fun found => nomatch found) ((atEdge fits).mp full)
        · rw [if_neg (mt beq_iff_eq.mp full)]
          exact iff_of_true ⟨_, rfl⟩ (Classical.not_not.mp (mt (atEdge fits).mpr full))
    · have bound := mt high.mp fits
      have outside : den * ceiling ≤ den * twoTo (971 + 53) :=
        Nat.mul_le_mul_left den ceiling_le_twoTo
      refine iff_of_false ?_ (by omega)
      rw [if_pos]
      · exact fun found => nomatch found
      · split
        · show 971 < exponent + 1
          omega
        · show 971 < exponent
          omega

end Rulebook.Decimal
