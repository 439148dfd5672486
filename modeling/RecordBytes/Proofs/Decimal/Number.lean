import Mathlib
import RecordBytes.Decimal.Basic
import RecordBytes.Proofs.Decimal.Digits

/-!
# Decimals as numbers

A decimal stands for a rational.  Its significant digits and its exponent determine the rational up to the
sign, so that of two positive decimals the one with the greater exponent is greater, and with one exponent
the digits decide.

Main results:

- `Decimal.toRat_of_pos`, `Decimal.toRat_of_neg`: the rational in terms of exponent and significant digits.
- `Decimal.compare_scaled`: fractions times powers of ten compare by exponent first.
- `Decimal.toRat_reduced`: the normal pair of a decimal stands for the same number.
-/

namespace RecordBytes

/-- An integer fits 64 bits when it is in their range, and is then unchanged. -/
theorem int64?_eq_some {number : Int} {word : Int64} (h : int64? number = some word) :
    word.toInt = number := by
  unfold int64? at h
  by_cases hrange : -0x8000_0000_0000_0000 ≤ number ∧ number < 0x8000_0000_0000_0000
  · rw [if_pos hrange] at h
    rcases Option.some.inj h with rfl
    exact Int64.toInt_ofInt_of_le hrange.1 hrange.2
  · rw [if_neg hrange] at h
    cases h

namespace Decimal

/-- The rational that a decimal stands for. -/
def toRat (decimal : Decimal) : ℚ :=
  decimal.unscaled * 10 ^ (-decimal.scale.toInt)

/-- The significant digits of a decimal, most significant first. -/
def digits (decimal : Decimal) : List Nat :=
  Digits.significant decimal.unscaled.natAbs

/-- The zeros at the end of the digits of a decimal. -/
def zeros (decimal : Decimal) : Nat :=
  Digits.trailingZeros decimal.unscaled.natAbs

/-- The rational of zero is zero. -/
theorem toRat_of_zero {decimal : Decimal} (h : decimal.unscaled = 0) : decimal.toRat = 0 := by
  simp [toRat, h]

theorem toRat_pos {decimal : Decimal} (h : 0 < decimal.unscaled) : 0 < decimal.toRat := by
  have hcast : (0 : ℚ) < decimal.unscaled := by exact_mod_cast h
  unfold toRat
  positivity

theorem toRat_neg {decimal : Decimal} (h : decimal.unscaled < 0) : decimal.toRat < 0 := by
  have hcast : (decimal.unscaled : ℚ) < 0 := by exact_mod_cast h
  exact mul_neg_of_neg_of_pos hcast (by positivity)

/-! ## Exponent and significant digits -/

theorem natAbs_eq (decimal : Decimal) :
    decimal.unscaled.natAbs = Digits.value decimal.digits * 10 ^ decimal.zeros :=
  (Digits.value_significant _).symm

/-- The exponent counts the digits in front of the point. -/
theorem exponent_eq {decimal : Decimal} {exponent : Int64} (h : decimal.exponent? = some exponent) :
    exponent.toInt = decimal.zeros + decimal.digits.length - decimal.scale.toInt := by
  have hfits := int64?_eq_some h
  rw [Digits.count_eq] at hfits
  push_cast at hfits
  exact hfits

/-- A number of digits with a scale is the fraction of the digits times ten to the exponent. -/
theorem natAbs_scaled {decimal : Decimal} {exponent : Int64} (h : decimal.exponent? = some exponent) :
    (decimal.unscaled.natAbs : ℚ) * 10 ^ (-decimal.scale.toInt) =
      Digits.fraction decimal.digits * 10 ^ exponent.toInt := by
  rw [natAbs_eq, exponent_eq h]
  push_cast
  rw [Digits.value_eq_fraction, sub_eq_add_neg, zpow_add₀ (by norm_num), zpow_add₀ (by norm_num),
    zpow_natCast, zpow_natCast]
  ring

/-- The rational of a positive decimal. -/
theorem toRat_of_pos {decimal : Decimal} {exponent : Int64} (hpos : 0 < decimal.unscaled)
    (h : decimal.exponent? = some exponent) :
    decimal.toRat = Digits.fraction decimal.digits * 10 ^ exponent.toInt := by
  have habs : (decimal.unscaled : ℚ) = decimal.unscaled.natAbs := by
    rw [Nat.cast_natAbs, abs_of_pos hpos]
  rw [toRat, habs, natAbs_scaled h]

/-- The rational of a negative decimal. -/
theorem toRat_of_neg {decimal : Decimal} {exponent : Int64} (hneg : decimal.unscaled < 0)
    (h : decimal.exponent? = some exponent) :
    decimal.toRat = -(Digits.fraction decimal.digits * 10 ^ exponent.toInt) := by
  have habs : (decimal.unscaled : ℚ) = -decimal.unscaled.natAbs := by
    rw [Nat.cast_natAbs, abs_of_neg hneg]
    push_cast
    ring
  rw [toRat, habs, neg_mul, natAbs_scaled h]

/-- The fraction of the digits of a decimal that is not zero is between one tenth and one. -/
theorem fraction_digits {decimal : Decimal} (h : decimal.unscaled ≠ 0) :
    1 / 10 ≤ Digits.fraction decimal.digits ∧ Digits.fraction decimal.digits < 1 :=
  Digits.fraction_significant (Int.natAbs_ne_zero.mpr h)

/-- A fraction times a smaller power of ten is less. -/
theorem scaled_lt_scaled {left right : ℚ} {low high : Int} (hleft : left < 1) (hright : 1 / 10 ≤ right)
    (h : low < high) : left * 10 ^ low < right * 10 ^ high := by
  have hpow : (10 : ℚ) ^ low ≤ 10 ^ (high - 1) := zpow_le_zpow_right₀ (by norm_num) (by omega)
  have hunit : (0 : ℚ) < 10 ^ low := by positivity
  have hunit' : (0 : ℚ) < 10 ^ high := by positivity
  calc
    left * 10 ^ low < 1 * 10 ^ low := mul_lt_mul_of_pos_right hleft hunit
    _ ≤ 10 ^ (high - 1) := by rw [one_mul]; exact hpow
    _ = 1 / 10 * 10 ^ high := by rw [zpow_sub_one₀ (by norm_num)]; ring
    _ ≤ right * 10 ^ high := mul_le_mul_of_nonneg_right hright hunit'.le

/-- Fractions between one tenth and one, times powers of ten, compare by exponent first. -/
theorem compare_scaled {left right : ℚ} (low high : Int) (hleft : 1 / 10 ≤ left ∧ left < 1)
    (hright : 1 / 10 ≤ right ∧ right < 1) :
    compare (left * 10 ^ low) (right * 10 ^ high) =
      (compare low high).then (compare left right) := by
  rcases lt_trichotomy low high with h | h | h
  · rw [compare_lt_iff_lt.mpr h]
    exact compare_lt_iff_lt.mpr (scaled_lt_scaled hleft.2 hright.1 h)
  · subst h
    have hunit : (0 : ℚ) < 10 ^ low := by positivity
    rw [compare_eq_iff_eq.mpr rfl, Ordering.eq_then]
    rw [← cmp_eq_compare, ← cmp_eq_compare, cmp_mul_pos_right hunit]
  · rw [compare_gt_iff_gt.mpr h]
    exact compare_gt_iff_gt.mpr (scaled_lt_scaled hright.2 hleft.1 h)

/-! ## The normal pair -/

/-- The normal pair of a decimal as a decimal. -/
def reduced (decimal : Decimal) : Decimal :=
  ⟨decimal.normal.1, Int64.ofInt decimal.normal.2⟩

/-- The scale of the normal pair fits 64 bits where the exponent does. -/
theorem scale_fits {decimal : Decimal} {exponent : Int64} (h : decimal.exponent? = some exponent) :
    -2 ^ 63 ≤ decimal.scale.toInt - decimal.zeros ∧ decimal.scale.toInt - decimal.zeros < 2 ^ 63 := by
  have hexponent := exponent_eq h
  have hlt := exponent.toInt_lt
  have hscale := decimal.scale.toInt_lt
  omega

theorem reduced_of_zero {decimal : Decimal} (h : decimal.unscaled = 0) : decimal.reduced = zero := by
  simp [reduced, normal, h]
  rfl

theorem scale_reduced {decimal : Decimal} {exponent : Int64} (hne : decimal.unscaled ≠ 0)
    (h : decimal.exponent? = some exponent) :
    decimal.reduced.scale.toInt = decimal.scale.toInt - decimal.zeros := by
  rcases scale_fits h with ⟨hlow, hhigh⟩
  have hnormal : decimal.normal.2 = decimal.scale.toInt - decimal.zeros := by
    simp [normal, hne, zeros]
  rw [reduced, hnormal, Int64.toInt_ofInt_of_le hlow hhigh]

theorem unscaled_reduced_of_pos {decimal : Decimal} (h : 0 < decimal.unscaled) :
    decimal.reduced.unscaled = Digits.value decimal.digits := by
  have habs : decimal.unscaled = Digits.value decimal.digits * (10 ^ decimal.zeros : Nat) := by
    rw [← Nat.cast_mul, ← natAbs_eq]
    omega
  have hpos : ((10 ^ decimal.zeros : Nat) : Int) ≠ 0 := by positivity
  simp only [reduced, normal, h.ne', if_false]
  show decimal.unscaled / (10 ^ decimal.zeros : Nat) = _
  rw [habs, Int.mul_ediv_cancel _ hpos]

theorem unscaled_reduced_of_neg {decimal : Decimal} (h : decimal.unscaled < 0) :
    decimal.reduced.unscaled = -(Digits.value decimal.digits : Int) := by
  have habs : decimal.unscaled = -(Digits.value decimal.digits : Int) * (10 ^ decimal.zeros : Nat) := by
    rw [neg_mul, ← Nat.cast_mul, ← natAbs_eq]
    omega
  have hpos : ((10 ^ decimal.zeros : Nat) : Int) ≠ 0 := by positivity
  simp only [reduced, normal, h.ne, if_false]
  show decimal.unscaled / (10 ^ decimal.zeros : Nat) = _
  rw [habs, Int.mul_ediv_cancel _ hpos]

theorem natAbs_reduced {decimal : Decimal} (h : decimal.unscaled ≠ 0) :
    decimal.reduced.unscaled.natAbs = Digits.value decimal.digits := by
  rcases lt_or_gt_of_ne h with hneg | hpos
  · rw [unscaled_reduced_of_neg hneg, Int.natAbs_neg, Int.natAbs_natCast]
  · rw [unscaled_reduced_of_pos hpos, Int.natAbs_natCast]

theorem value_digits_pos {decimal : Decimal} (h : decimal.unscaled ≠ 0) :
    0 < Digits.value decimal.digits := by
  have habs := natAbs_eq decimal
  apply Nat.pos_of_ne_zero
  intro hzero
  rw [hzero, Nat.zero_mul] at habs
  exact h (Int.natAbs_eq_zero.mp habs)

theorem digits_reduced {decimal : Decimal} (h : decimal.unscaled ≠ 0) :
    decimal.reduced.digits = decimal.digits := by
  rw [digits, natAbs_reduced h]
  exact Digits.significant_value _

/-- The normal pair has the same exponent. -/
theorem exponent_reduced {decimal : Decimal} {exponent : Int64} (hne : decimal.unscaled ≠ 0)
    (h : decimal.exponent? = some exponent) : decimal.reduced.exponent? = some exponent := by
  rw [exponent?, natAbs_reduced hne, scale_reduced hne h]
  rw [exponent?, Digits.count_eq] at h
  rw [← h]
  congr 1
  have hcount : Digits.count (Digits.value decimal.digits) = decimal.digits.length :=
    Digits.count_value_significant _
  rw [hcount, digits, zeros]
  push_cast
  ring

/-- The normal pair of a decimal stands for the same number. -/
theorem toRat_reduced {decimal : Decimal} {exponent : Int64} (hne : decimal.unscaled ≠ 0)
    (h : decimal.exponent? = some exponent) : decimal.reduced.toRat = decimal.toRat := by
  have hexponent := exponent_reduced hne h
  have hvalue := value_digits_pos hne
  rcases lt_or_gt_of_ne hne with hneg | hpos
  · have hneg' : decimal.reduced.unscaled < 0 := by
      rw [unscaled_reduced_of_neg hneg]
      omega
    rw [toRat_of_neg hneg h, toRat_of_neg hneg' hexponent, digits_reduced hne]
  · have hpos' : 0 < decimal.reduced.unscaled := by
      rw [unscaled_reduced_of_pos hpos]
      omega
    rw [toRat_of_pos hpos h, toRat_of_pos hpos' hexponent, digits_reduced hne]

end Decimal
end RecordBytes
