import InlineStyle.Proofs.FloatText
import Mathlib.Algebra.Order.Field.Rat
import Mathlib.Tactic.FieldSimp
import Mathlib.Tactic.Linarith
import Mathlib.Tactic.Positivity

/-! Rounding a number to the nearest magnitude. Magnitudes are the marks of a scale that is coarser the higher it goes. The
number lies between two neighbours on it, and the nearer one of them is nearest among all. -/

namespace InlineStyle.Binary64

/-! The scale -/

private theorem half_range : Nat.pow 2 52 = 4503599627370496 := rfl

private theorem full_range : Nat.pow 2 53 = 9007199254740992 := rfl

/-- A significand keeps its meaning up to the next power of two, where the next exponent begins. -/
theorem units_shifted {shift significand : Nat} (least : Nat.pow 2 52 ≤ significand) (most : significand ≤ Nat.pow 2 53) :
    units (shift * Nat.pow 2 52 + significand) = significand * Nat.pow 2 shift := by
  rw [full_range] at most
  rw [units]
  simp only [half_range] at least ⊢
  rw [if_neg (by omega)]
  rcases Nat.lt_or_eq_of_le most with inside | top
  · have quotient : (shift * 4503599627370496 + significand) / 4503599627370496 = shift + 1 := by omega
    have rest : (shift * 4503599627370496 + significand) % 4503599627370496 = significand - 4503599627370496 := by omega
    rw [quotient, rest, Nat.add_sub_cancel, Nat.add_sub_cancel' least]
  · have quotient : (shift * 4503599627370496 + significand) / 4503599627370496 = shift + 2 := by omega
    have rest : (shift * 4503599627370496 + significand) % 4503599627370496 = 0 := by omega
    have power : Nat.pow 2 (shift + 1) = 2 * Nat.pow 2 shift := Nat.pow_succ'
    rw [quotient, rest, top, show shift + 2 - 1 = shift + 1 from rfl, power, ← Nat.mul_assoc]

/-- Without a shift, the least significands count the smallest numbers. -/
theorem units_small {significand : Nat} (most : significand ≤ Nat.pow 2 53) : units significand = significand := by
  by_cases small : significand < Nat.pow 2 52
  · rw [units, if_pos small]
  · have shifted := @units_shifted 0 significand (Nat.le_of_not_lt small) most
    rw [Nat.zero_mul, Nat.zero_add] at shifted
    rw [shifted]
    exact Nat.mul_one _

theorem units_lt_succ (magnitude : Nat) : units magnitude < units (magnitude + 1) := by
  by_cases small : magnitude < Nat.pow 2 53
  · rw [units_small (Nat.le_of_lt small), units_small small]
    exact Nat.lt_succ_self _
  · -- Above, both stand in the range of one exponent.
    obtain ⟨shift, significand, least, inside, rfl⟩ : ∃ shift significand, Nat.pow 2 52 ≤ significand ∧
        significand < Nat.pow 2 53 ∧ magnitude = shift * Nat.pow 2 52 + significand := by
      refine ⟨magnitude / Nat.pow 2 52 - 1, magnitude % Nat.pow 2 52 + Nat.pow 2 52, ?_⟩
      simp only [half_range, full_range] at small ⊢
      omega
    rw [Nat.add_assoc, units_shifted least (Nat.le_of_lt inside), units_shifted (Nat.le_succ_of_le least) inside]
    exact Nat.mul_lt_mul_of_pos_right (Nat.lt_succ_self _) (Nat.pow_pos (by decide))

theorem units_strictMono : StrictMono units := strictMono_nat_of_lt_succ units_lt_succ

/-- The number that a magnitude stands for. Infinity stands where the next power of two would. -/
def size (magnitude : Nat) : ℚ := units magnitude / perOne

/-- The magnitude nearest to a number, and the even one of two that are equally near. -/
structure Nearest (number : ℚ) (magnitude : Nat) : Prop where
  bounded : magnitude ≤ infinite
  least : ∀ other ≤ infinite, |number - size magnitude| ≤ |number - size other|
  even : ∀ other ≤ infinite, other ≠ magnitude → |number - size other| = |number - size magnitude| → magnitude % 2 = 0

theorem perOne_cast_pos : (0 : ℚ) < perOne := Nat.cast_pos.mpr perOne_pos

theorem size_strictMono : StrictMono size := by
  intro lower upper less
  have units : (units lower : ℚ) < units upper := Nat.cast_lt.mpr (units_strictMono less)
  exact div_lt_div_of_pos_right units perOne_cast_pos

/-- What a quotient stands for that the shift has made a significand. -/
theorem units_mark {shift significand : Nat} (range : significand < Nat.pow 2 53 ∧ (shift = 0 ∨ Nat.pow 2 52 ≤ significand)) :
    units (shift * Nat.pow 2 52 + significand) = significand * Nat.pow 2 shift := by
  obtain ⟨most, rfl | least⟩ := range
  · rw [Nat.zero_mul, Nat.zero_add, units_small (Nat.le_of_lt most)]
    exact (Nat.mul_one _).symm
  · exact units_shifted least (Nat.le_of_lt most)

theorem units_next_mark {shift significand : Nat} (range : significand < Nat.pow 2 53 ∧ (shift = 0 ∨ Nat.pow 2 52 ≤ significand)) :
    units (shift * Nat.pow 2 52 + significand + 1) = (significand + 1) * Nat.pow 2 shift := by
  obtain ⟨most, rfl | least⟩ := range
  · rw [Nat.zero_mul, Nat.zero_add, units_small most]
    exact (Nat.mul_one _).symm
  · rw [Nat.add_assoc]
    exact units_shifted (Nat.le_succ_of_le least) most

/-! Neighbours -/

/-- Nearest among all marks of the scale, those above infinity included. -/
structure Closest (number : ℚ) (magnitude : Nat) : Prop where
  least : ∀ other, |number - size magnitude| ≤ |number - size other|
  even : ∀ other, other ≠ magnitude → |number - size other| = |number - size magnitude| → magnitude % 2 = 0

variable {number : ℚ} {low magnitude : Nat}

theorem Closest.lower (below : size low ≤ number) (nearer : number - size low ≤ size (low + 1) - number)
    (tie : number - size low = size (low + 1) - number → low % 2 = 0) : Closest number low := by
  have distance : |number - size low| = number - size low := abs_of_nonneg (sub_nonneg.mpr below)
  constructor
  · intro other
    rw [distance]
    rcases Nat.lt_or_ge low other with above | under
    · have further := size_strictMono.monotone (Nat.succ_le_of_lt above)
      exact le_abs.mpr (.inr (by linarith))
    · have further := size_strictMono.monotone under
      exact le_abs.mpr (.inl (by linarith))
  · intro other different same
    rw [distance] at same
    rcases Nat.lt_or_gt_of_ne different with under | above
    · have further := size_strictMono under
      have nearest := le_abs_self (number - size other)
      exact absurd same (by linarith)
    · have further := size_strictMono.monotone (Nat.succ_le_of_lt above)
      have nearest := neg_le_abs (number - size other)
      exact tie (by linarith)

theorem Closest.upper (above : number ≤ size (low + 1)) (nearer : size (low + 1) - number ≤ number - size low)
    (tie : size (low + 1) - number = number - size low → (low + 1) % 2 = 0) : Closest number (low + 1) := by
  have distance : |number - size (low + 1)| = size (low + 1) - number := by
    rw [abs_sub_comm]
    exact abs_of_nonneg (sub_nonneg.mpr above)
  constructor
  · intro other
    rw [distance]
    rcases Nat.lt_or_ge low other with beyond | under
    · have further := size_strictMono.monotone (Nat.succ_le_of_lt beyond)
      exact le_abs.mpr (.inr (by linarith))
    · have further := size_strictMono.monotone under
      exact le_abs.mpr (.inl (by linarith))
  · intro other different same
    rw [distance] at same
    rcases Nat.lt_or_gt_of_ne different with under | beyond
    · have further := size_strictMono.monotone (Nat.le_of_lt_succ under)
      have nearest := le_abs_self (number - size other)
      exact tie (by linarith)
    · have further := size_strictMono beyond
      have nearest := neg_le_abs (number - size other)
      exact absurd same (by linarith)

/-- What is nearest to a mark above infinity becomes infinite. -/
theorem Closest.nearest (closest : Closest number magnitude) : Nearest number (min infinite magnitude) := by
  rcases Nat.lt_or_ge infinite magnitude with beyond | inside
  · rw [Nat.min_eq_left (Nat.le_of_lt beyond)]
    have above : size infinite ≤ number := by
      by_contra under
      have further := size_strictMono beyond
      have nearer := closest.least infinite
      rw [abs_of_nonpos (by linarith), abs_of_nonpos (by linarith)] at nearer
      linarith
    refine ⟨Nat.le_refl _, fun other bounded => ?_, fun _ _ _ _ => rfl⟩
    have further := size_strictMono.monotone bounded
    rw [abs_of_nonneg (by linarith), abs_of_nonneg (by linarith)]
    linarith
  · rw [Nat.min_eq_right inside]
    exact ⟨inside, fun other _ => closest.least other, fun other _ => closest.even other⟩

private theorem Nearest.not_lt {other : Nat} (nearest : Nearest number magnitude) (another : Nearest number other) :
    ¬ magnitude < other := by
  intro less
  have apart := size_strictMono less
  have equal : |number - size magnitude| = |number - size other| :=
    le_antisymm (nearest.least other another.bounded) (another.least magnitude nearest.bounded)
  have middle : number - size magnitude = -(number - size other) := by
    rcases abs_eq_abs.mp equal with same | opposite
    · exact absurd apart (by linarith)
    · exact opposite
  have even := nearest.even other another.bounded (Nat.ne_of_gt less) equal.symm
  have otherEven := another.even magnitude nearest.bounded (Nat.ne_of_lt less) equal
  -- Two even marks have one between them, and that one would be nearer.
  have between : magnitude + 1 < other := by omega
  have lower := size_strictMono (Nat.lt_succ_self magnitude)
  have upper := size_strictMono between
  have nearer := nearest.least (magnitude + 1) (by have := another.bounded; omega)
  have inside : |number - size (magnitude + 1)| < |number - size magnitude| := by
    rw [abs_of_nonneg (by linarith : 0 ≤ number - size magnitude)]
    exact abs_lt.mpr ⟨by linarith, by linarith⟩
  exact absurd inside (not_lt_of_ge nearer)

theorem Nearest.unique {other : Nat} (nearest : Nearest number magnitude) (another : Nearest number other) : magnitude = other :=
  Nat.le_antisymm (Nat.le_of_not_lt (another.not_lt nearest)) (Nat.le_of_not_lt (nearest.not_lt another))

/-! The quotient -/

theorem roundedQuotient_cases {numerator denominator : Nat} (positive : 0 < denominator) :
    let quotient := numerator / denominator
    let rest := numerator % denominator
    (roundedQuotient numerator denominator = quotient ∧ rest ≤ denominator - rest ∧ (rest = denominator - rest → quotient % 2 = 0)) ∨
      (roundedQuotient numerator denominator = quotient + 1 ∧ denominator - rest ≤ rest ∧
        (denominator - rest = rest → (quotient + 1) % 2 = 0)) := by
  intro quotient rest
  have small : rest < denominator := Nat.mod_lt _ positive
  by_cases down : 2 * rest < denominator ∨ (2 * rest = denominator ∧ quotient % 2 = 0)
  · exact .inl ⟨if_pos down, by omega, by omega⟩
  · exact .inr ⟨if_neg down, by omega, by omega⟩

/-- The shift is chosen so that the quotient is a significand. -/
theorem significand_range (quotient : Nat) :
    quotient / Nat.pow 2 (quotient.log2 - 52) < Nat.pow 2 53 ∧
      (quotient.log2 - 52 = 0 ∨ Nat.pow 2 52 ≤ quotient / Nat.pow 2 (quotient.log2 - 52)) := by
  by_cases small : quotient < Nat.pow 2 53
  · have short : quotient.log2 - 52 = 0 := by
      by_cases zero : quotient = 0
      · simp [zero]
      · have bound := (Nat.log2_lt zero).mpr small
        omega
    rw [short]
    exact ⟨Nat.lt_of_le_of_lt (Nat.div_le_self _ _) small, .inl rfl⟩
  · have nonzero : quotient ≠ 0 := by
      rintro rfl
      exact small (by decide)
    have long : 53 ≤ quotient.log2 := (Nat.le_log2 nonzero).mpr (Nat.le_of_not_lt small)
    obtain ⟨shift, exponent⟩ := Nat.exists_eq_add_of_le (Nat.le_of_succ_le long)
    have least : Nat.pow 2 (52 + shift) ≤ quotient := exponent ▸ Nat.log2_self_le nonzero
    have most : quotient < Nat.pow 2 (53 + shift) := by
      have bound : quotient < 2 ^ (quotient.log2 + 1) := Nat.lt_log2_self
      rwa [exponent, Nat.add_right_comm] at bound
    have lower : Nat.pow 2 (52 + shift) = Nat.pow 2 52 * Nat.pow 2 shift := Nat.pow_add 2 52 shift
    have upper : Nat.pow 2 (53 + shift) = Nat.pow 2 53 * Nat.pow 2 shift := Nat.pow_add 2 53 shift
    have positive : 0 < Nat.pow 2 shift := Nat.pow_pos (by decide)
    rw [exponent, Nat.add_sub_cancel_left, Nat.div_lt_iff_lt_mul positive, Nat.le_div_iff_mul_le positive, ← lower, ← upper]
    exact ⟨most, .inr least⟩

section Remainder

variable {numerator denominator unit quotient rest : Nat}

/-- How far above a mark a number stands, by the remainder of the division that found the mark. -/
theorem sub_size (positive : 0 < denominator) (stands : units low = quotient * unit)
    (split : quotient * (denominator * unit) + rest = numerator * perOne) :
    (numerator : ℚ) / denominator - size low = rest / (denominator * perOne : ℚ) := by
  have nonzero : (denominator : ℚ) ≠ 0 := Nat.cast_ne_zero.mpr (Nat.ne_of_gt positive)
  have whole : (quotient : ℚ) * (denominator * unit) + rest = numerator * perOne := by exact_mod_cast split
  have scale := ne_of_gt perOne_cast_pos
  rw [size, stands, Nat.cast_mul]
  field_simp
  linarith

theorem size_sub (positive : 0 < denominator) (stands : units (low + 1) = (quotient + 1) * unit)
    (split : quotient * (denominator * unit) + rest = numerator * perOne) (small : rest < denominator * unit) :
    size (low + 1) - (numerator : ℚ) / denominator = ((denominator * unit - rest : Nat) : ℚ) / (denominator * perOne : ℚ) := by
  have nonzero : (denominator : ℚ) ≠ 0 := Nat.cast_ne_zero.mpr (Nat.ne_of_gt positive)
  have whole : (quotient : ℚ) * (denominator * unit) + rest = numerator * perOne := by exact_mod_cast split
  have scale := ne_of_gt perOne_cast_pos
  rw [size, stands, Nat.cast_mul, Nat.cast_sub (Nat.le_of_lt small), Nat.cast_mul, Nat.cast_succ]
  field_simp
  linarith

end Remainder

/-- The magnitude that is counted off is the nearest one. -/
theorem nearest_nearest (numerator : Nat) {denominator : Nat} (positive : 0 < denominator) :
    Nearest (numerator / denominator) (nearest numerator denominator) := by
  rw [nearest]
  generalize chosen : (numerator * perOne / denominator).log2 - 52 = shift
  have range := significand_range (numerator * perOne / denominator)
  rw [chosen, Nat.div_div_eq_div_mul] at range
  apply Closest.nearest
  have divisor : 0 < denominator * Nat.pow 2 shift := Nat.mul_pos positive (Nat.pow_pos (by decide))
  have split := Nat.div_add_mod' (numerator * perOne) (denominator * Nat.pow 2 shift)
  have small := Nat.mod_lt (numerator * perOne) divisor
  have rounded := @roundedQuotient_cases (numerator * perOne) _ divisor
  generalize numerator * perOne / (denominator * Nat.pow 2 shift) = quotient at *
  generalize numerator * perOne % (denominator * Nat.pow 2 shift) = rest at *
  have gap : (0 : ℚ) < denominator * perOne := mul_pos (Nat.cast_pos.mpr positive) perOne_cast_pos
  have above := sub_size positive (units_mark range) split
  have below := size_sub positive (units_next_mark range) split small
  have even (significand : Nat) : (shift * Nat.pow 2 52 + significand) % 2 = significand % 2 := by
    rw [half_range]
    omega
  rcases rounded with ⟨down, nearer, tie⟩ | ⟨up, nearer, tie⟩
  · rw [down]
    apply Closest.lower
    · rw [← sub_nonneg, above]
      positivity
    · rw [above, below]
      exact div_le_div_of_nonneg_right (Nat.cast_le.mpr nearer) gap.le
    · intro same
      rw [above, below, div_left_inj' gap.ne', Nat.cast_inj] at same
      rw [even, tie same]
  · rw [up, ← Nat.add_assoc]
    apply Closest.upper
    · rw [← sub_nonneg, below]
      positivity
    · rw [above, below]
      exact div_le_div_of_nonneg_right (Nat.cast_le.mpr nearer) gap.le
    · intro same
      rw [above, below, div_left_inj' gap.ne', Nat.cast_inj] at same
      rw [Nat.add_assoc, even, tie same]

end InlineStyle.Binary64
