import EventMesh.Decimal.Binary64
import Mathlib.Algebra.Order.Field.Power
import Mathlib.Algebra.Order.Ring.Rat
import Mathlib.Tactic.Linarith
import Mathlib.Tactic.NormNum
import Mathlib.Tactic.Positivity

/-!
# The numbers that bit patterns stand for

A bit pattern stands for a rational number, for an infinity, or, if it is a NaN, for no number at all.
Main statement: two bit patterns are equal in the arithmetic sense just if they stand for the same
number (`same_iff_number`). A number but zero has one bit pattern, because the significand of a finite
one has its highest bit set unless the exponent is the least there is (`normalized_unique`).
-/

namespace EventMesh.Decimal

/-- What a bit pattern can stand for. -/
inductive Number where
  | finite (value : ℚ)
  | infinite (negative : Bool)

namespace Binary64

variable {x y : Binary64}

/-- The magnitude that the exponent and the fraction give. -/
def magnitude (x : Binary64) : ℚ := x.significand * 2 ^ x.scale

/-- The rational number of a finite bit pattern. -/
def value (x : Binary64) : ℚ := if x.negative then -x.magnitude else x.magnitude

/-- The number that a bit pattern stands for. -/
def number? (x : Binary64) : Option Number :=
  if x.isNaN then none
  else if x.isInfinite then some (.infinite x.negative)
  else some (.finite x.value)

/-! ### Fields -/

/-- A bit pattern is its sign, its exponent and its fraction. -/
theorem eq_of_fields (sign : x.negative = y.negative) (exponent : x.exponentBits = y.exponentBits)
    (fraction : x.fractionBits = y.fractionBits) : x = y := by
  obtain ⟨b⟩ := x
  obtain ⟨c⟩ := y
  congr 1
  apply UInt64.toNat_inj.mp
  have hb := b.toNat_lt
  have hc := c.toNat_lt
  simp only [negative, exponentBits, fractionBits, ge_iff_le, decide_eq_decide] at *
  omega

theorem fractionBits_lt (x : Binary64) : x.fractionBits < 2 ^ 52 :=
  Nat.mod_lt _ (by decide)

theorem significand_lt (x : Binary64) : x.significand < 2 ^ 53 := by
  have := x.fractionBits_lt
  unfold significand
  split <;> omega

/-- The significand has its highest bit set unless the exponent is the least there is. -/
theorem normalized (x : Binary64) : 2 ^ 52 ≤ x.significand ∨ x.scale = -1074 := by
  unfold significand scale
  split
  · exact Or.inr rfl
  · exact Or.inl (by omega)

theorem scale_ge (x : Binary64) : -1074 ≤ x.scale := by
  unfold scale
  split <;> omega

/-- The exponent and the fraction can be read off the significand and its scale. -/
theorem fields_eq (significand : x.significand = y.significand) (scale : x.scale = y.scale) :
    x.exponentBits = y.exponentBits ∧ x.fractionBits = y.fractionBits := by
  have hx := x.fractionBits_lt
  have hy := y.fractionBits_lt
  simp only [Binary64.significand, Binary64.scale] at significand scale
  split at significand <;> split at significand <;> simp_all
  all_goals omega

/-! ### One bit pattern for a number -/

/-- A magnitude with a greater scale is a multiple of more than the other significand can hold. -/
theorem scale_not_lt (same : x.magnitude = y.magnitude) : ¬ x.scale < y.scale := by
  intro less
  have top : 2 ^ 52 ≤ y.significand := by
    rcases y.normalized with top | least
    · exact top
    · have := x.scale_ge
      omega
  have split : (2 : ℚ) ^ y.scale = 2 ^ (y.scale - x.scale).toNat * 2 ^ x.scale := by
    rw [← zpow_natCast, ← zpow_add₀ two_ne_zero]
    congr 1
    omega
  have multiple : x.significand = y.significand * 2 ^ (y.scale - x.scale).toNat := by
    have positive : (2 : ℚ) ^ x.scale ≠ 0 := zpow_ne_zero _ two_ne_zero
    rw [magnitude, magnitude, split, ← mul_assoc] at same
    exact_mod_cast mul_right_cancel₀ positive same
  have double : 2 ≤ 2 ^ (y.scale - x.scale).toNat := by
    have := Nat.pow_le_pow_right (show 0 < 2 by decide)
      (show 1 ≤ (y.scale - x.scale).toNat by omega)
    simpa using this
  have large := Nat.mul_le_mul top double
  have small := x.significand_lt
  omega

/-- **A magnitude has one significand and one scale.** -/
theorem normalized_unique (same : x.magnitude = y.magnitude) :
    x.significand = y.significand ∧ x.scale = y.scale := by
  have scale : x.scale = y.scale :=
    le_antisymm (not_lt.mp (scale_not_lt same.symm)) (not_lt.mp (scale_not_lt same))
  refine ⟨?_, scale⟩
  rw [magnitude, magnitude, scale] at same
  exact_mod_cast mul_right_cancel₀ (zpow_ne_zero _ two_ne_zero) same

theorem magnitude_nonneg (x : Binary64) : 0 ≤ x.magnitude := by
  unfold magnitude
  positivity

theorem magnitude_eq_zero_iff : x.magnitude = 0 ↔ x.isZero = true := by
  have power : (2 : ℚ) ^ x.scale ≠ 0 := zpow_ne_zero _ two_ne_zero
  have significand : x.significand = 0 ↔ x.isZero = true := by
    simp only [Binary64.significand, isZero, Bool.and_eq_true, beq_iff_eq]
    split <;> simp_all
  rw [magnitude, mul_eq_zero, or_iff_left power, Nat.cast_eq_zero, significand]

/-- **Finite bit patterns have the same value just if they are the same or both zero.** -/
theorem value_eq_iff : x.value = y.value ↔ x = y ∨ x.isZero = true ∧ y.isZero = true := by
  constructor
  · intro same
    have hx := x.magnitude_nonneg
    have hy := y.magnitude_nonneg
    by_cases sign : x.negative = y.negative
    · have magnitudes : x.magnitude = y.magnitude := by
        simp only [value, sign] at same
        split at same <;> linarith
      obtain ⟨significand, scale⟩ := normalized_unique magnitudes
      obtain ⟨exponent, fraction⟩ := fields_eq significand scale
      exact Or.inl (eq_of_fields sign exponent fraction)
    · -- Numbers of different signs are the same only at zero.
      have opposite : x.magnitude = 0 ∧ y.magnitude = 0 := by
        simp only [value] at same
        cases hn : x.negative <;> cases hm : y.negative
        · simp [hn, hm] at sign
        · simp only [hn, hm, Bool.false_eq_true, if_false, if_true] at same
          constructor <;> linarith
        · simp only [hn, hm, Bool.false_eq_true, if_false, if_true] at same
          constructor <;> linarith
        · simp [hn, hm] at sign
      exact Or.inr ⟨magnitude_eq_zero_iff.mp opposite.1, magnitude_eq_zero_iff.mp opposite.2⟩
  · rintro (rfl | ⟨hx, hy⟩)
    · rfl
    · rw [← magnitude_eq_zero_iff] at hx hy
      simp [value, hx, hy]

/-! ### Arithmetic equality -/

theorem number?_eq_none_iff : x.number? = none ↔ x.isNaN = true := by
  unfold number?
  split
  · simp_all
  · split <;> simp_all

/-- Infinities of one sign are the same. -/
theorem eq_of_infinite (hx : x.isInfinite = true) (hy : y.isInfinite = true)
    (sign : x.negative = y.negative) : x = y := by
  simp only [isInfinite, Bool.and_eq_true, beq_iff_eq] at hx hy
  exact eq_of_fields sign (hx.1.trans hy.1.symm) (hx.2.trans hy.2.symm)

theorem not_isZero_of_isInfinite (h : x.isInfinite = true) : x.isZero = false := by
  simp only [isInfinite, Bool.and_eq_true, beq_iff_eq] at h
  simp [isZero, h.1]

/-- **Two bit patterns are equal just if they stand for the same number.** -/
theorem same_iff_number : x.same y = true ↔ ∃ n, x.number? = some n ∧ y.number? = some n := by
  by_cases hx : x.isNaN = true
  · simp [same, hx, number?_eq_none_iff.mpr hx]
  by_cases hy : y.isNaN = true
  · simp [same, hy, number?_eq_none_iff.mpr hy]
  have equal : x.same y = true ↔ x = y ∨ x.isZero = true ∧ y.isZero = true := by
    simp [same, hx, hy]
  rw [equal]
  by_cases hi : x.isInfinite = true <;> by_cases hj : y.isInfinite = true
  · have nonzero := not_isZero_of_isInfinite hi
    have alike : x = y ↔ y.negative = x.negative :=
      ⟨fun h => h ▸ rfl, fun h => eq_of_infinite hi hj h.symm⟩
    simp [number?, hx, hy, hi, hj, nonzero, alike]
  · have nonzero := not_isZero_of_isInfinite hi
    have different : x ≠ y := fun h => hj (h ▸ hi)
    simp [number?, hx, hy, hi, hj, nonzero, different]
  · have nonzero := not_isZero_of_isInfinite hj
    have different : x ≠ y := fun h => hi (h ▸ hj)
    simp [number?, hx, hy, hi, hj, nonzero, different]
  · rw [← value_eq_iff, eq_comm]
    simp [number?, hx, hy, hi, hj]

end Binary64

end EventMesh.Decimal
