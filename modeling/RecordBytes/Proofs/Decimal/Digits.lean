import Mathlib
import RecordBytes.Decimal.Digits

/-!
# Significant digits

The digits of a positive number without the zeros at its end, read behind a decimal point, spell a fraction
of at least one tenth and below one.  Digit strings with no zero at the end are ordered as such fractions.

Main results:

- `Digits.value_significant`: a number is the value of its significant digits with its zeros behind them.
- `Digits.significant_value`: what significant digits spell has those significant digits.
- `Digits.compare_fraction_cons`: fractions of trimmed digits compare digit by digit.
- `Digits.fraction_significant`: the fraction of significant digits is between one tenth and one.
-/

namespace RecordBytes.Digits

/-! ## Digits in base ten -/

theorem lowFirst_eq_digits (number : Nat) : lowFirst number = Nat.digits 10 number := by
  fun_induction lowFirst number with
  | case1 => simp
  | case2 number hpos ih =>
    rw [Nat.digits_def' (by decide) (Nat.pos_of_ne_zero hpos), ih]

theorem value_eq_ofDigits (digits : List Nat) : value digits = Nat.ofDigits 10 digits.reverse := by
  unfold value
  rw [Nat.ofDigits_eq_foldr, List.foldr_reverse]
  congr 1
  funext high digit
  simp [Nat.add_comm]

/-- A digit in front counts ten to the number of digits behind it. -/
theorem value_cons (digit : Nat) (digits : List Nat) :
    value (digit :: digits) = digit * 10 ^ digits.length + value digits := by
  rw [value_eq_ofDigits, value_eq_ofDigits, List.reverse_cons, Nat.ofDigits_append,
    Nat.ofDigits_singleton, List.length_reverse]
  ring

/-! ## Trimmed digits -/

/-- Digits below ten, the last of which is not zero. -/
def Trimmed : List Nat → Prop
  | [] => True
  | digit :: digits => digit < 10 ∧ (digits = [] → digit ≠ 0) ∧ Trimmed digits

theorem trimmed_iff {digits : List Nat} :
    Trimmed digits ↔ (∀ digit ∈ digits, digit < 10) ∧ digits.getLast? ≠ some 0 := by
  induction digits with
  | nil => simp [Trimmed]
  | cons digit digits ih =>
    cases digits with
    | nil => simp [Trimmed]
    | cons next digits =>
      simp only [Trimmed, reduceCtorEq, IsEmpty.forall_iff, true_and] at ih ⊢
      rw [ih]
      simp [and_assoc]

/-- The digits of a number, least significant first, are the zeros at its end and its significant digits. -/
theorem digits_eq (number : Nat) :
    Nat.digits 10 number =
      List.replicate (trailingZeros number) 0 ++ (significant number).reverse := by
  have hzeros : (lowFirst number).takeWhile (· == 0) =
      List.replicate (trailingZeros number) 0 := by
    rw [List.eq_replicate_iff]
    refine ⟨rfl, ?_⟩
    intro digit hdigit
    simpa using List.mem_takeWhile_imp hdigit
  rw [← lowFirst_eq_digits, significant, List.reverse_reverse, ← hzeros,
    List.takeWhile_append_dropWhile]

/-- A number is the value of its significant digits with its zeros behind them. -/
theorem value_significant (number : Nat) :
    value (significant number) * 10 ^ trailingZeros number = number := by
  have hvalue := Nat.ofDigits_digits 10 number
  rw [digits_eq, Nat.ofDigits_append, Nat.ofDigits_replicate_zero, List.length_replicate, zero_add,
    ← value_eq_ofDigits, Nat.mul_comm] at hvalue
  exact hvalue

theorem count_eq (number : Nat) :
    count number = trailingZeros number + (significant number).length := by
  rw [count, lowFirst_eq_digits, digits_eq]
  simp

/-- Significant digits are trimmed. -/
theorem trimmed_significant (number : Nat) : Trimmed (significant number) := by
  rw [trimmed_iff]
  constructor
  · intro digit hdigit
    apply Nat.digits_lt_base (b := 10) (m := number) (by decide)
    rw [digits_eq]
    simp [hdigit]
  · have hhead := List.head?_dropWhile_not (· == 0) (lowFirst number)
    unfold significant
    rw [List.getLast?_reverse]
    intro hzero
    rw [hzero] at hhead
    simp at hhead

theorem significant_ne_nil {number : Nat} (h : number ≠ 0) : significant number ≠ [] := by
  intro hnil
  have hvalue := value_significant number
  rw [hnil] at hvalue
  simp [value] at hvalue
  omega

/-- The first significant digit is not zero. -/
theorem head_significant_ne_zero {number : Nat} (hne : significant number ≠ []) :
    (significant number).head hne ≠ 0 := by
  have hnumber : number ≠ 0 := by
    intro heq
    subst heq
    simp [significant, lowFirst] at hne
  have hlast := Nat.getLast_digit_ne_zero 10 hnumber
  have hreverse : (significant number).reverse ≠ [] := by simpa using hne
  have hsuffix : (significant number).reverse <:+ Nat.digits 10 number := by
    rw [digits_eq]
    exact List.suffix_append _ _
  rw [← hsuffix.getLast hreverse, List.getLast_reverse] at hlast
  exact hlast

/-- What significant digits spell has those digits, least significant first. -/
theorem digits_value_significant (number : Nat) :
    Nat.digits 10 (value (significant number)) = (significant number).reverse := by
  rw [value_eq_ofDigits]
  apply Nat.digits_ofDigits 10 (by decide)
  · intro digit hdigit
    rw [List.mem_reverse] at hdigit
    exact (trimmed_iff.mp (trimmed_significant number)).1 digit hdigit
  · intro hne
    rw [List.getLast_reverse]
    exact head_significant_ne_zero _

/-- What significant digits spell has those significant digits. -/
theorem significant_value (number : Nat) :
    significant (value (significant number)) = significant number := by
  have htrimmed := (trimmed_iff.mp (trimmed_significant number)).2
  rw [significant, lowFirst_eq_digits, digits_value_significant]
  rw [List.dropWhile_beq_eq_self_of_head?_ne, List.reverse_reverse]
  rw [List.head?_reverse]
  exact htrimmed

theorem count_value_significant (number : Nat) :
    count (value (significant number)) = (significant number).length := by
  rw [count, lowFirst_eq_digits, digits_value_significant, List.length_reverse]

/-! ## Fractions -/

/-- The number that digits spell behind a decimal point. -/
def fraction : List Nat → ℚ
  | [] => 0
  | digit :: digits => (digit + fraction digits) / 10

/-- The value of digits is their fraction with the point moved behind the last digit. -/
theorem value_eq_fraction (digits : List Nat) :
    (value digits : ℚ) = fraction digits * 10 ^ digits.length := by
  induction digits with
  | nil => simp [value, fraction]
  | cons digit digits ih =>
    rw [value_cons, fraction, List.length_cons, pow_succ]
    push_cast
    rw [ih]
    ring

theorem fraction_nonneg (digits : List Nat) : 0 ≤ fraction digits := by
  induction digits with
  | nil => exact le_refl _
  | cons digit digits ih =>
    unfold fraction
    positivity

theorem fraction_lt_one {digits : List Nat} (h : Trimmed digits) : fraction digits < 1 := by
  induction digits with
  | nil => simp [fraction]
  | cons digit digits ih =>
    rcases h with ⟨hdigit, -, hdigits⟩
    have hlt := ih hdigits
    have hcast : (digit : ℚ) ≤ 9 := by exact_mod_cast Nat.le_of_lt_succ hdigit
    unfold fraction
    linarith

/-- Trimmed digits spell more than zero as soon as there are any. -/
theorem fraction_pos {digit : Nat} {digits : List Nat} (h : Trimmed (digit :: digits)) :
    0 < fraction (digit :: digits) := by
  induction digits generalizing digit with
  | nil =>
    have hpos : 0 < digit := Nat.pos_of_ne_zero (h.2.1 rfl)
    simp only [fraction]
    positivity
  | cons next digits ih =>
    have hpos := ih h.2.2
    rw [fraction]
    positivity

/-- A smaller digit in front makes a smaller fraction, whatever digits follow. -/
theorem fraction_lt_of_head {low high : Nat} {left : List Nat} (h : low < high)
    (hleft : Trimmed (low :: left)) (right : List Nat) :
    fraction (low :: left) < fraction (high :: right) := by
  have hlt := fraction_lt_one hleft.2.2
  have hright := fraction_nonneg right
  have hcast : (low : ℚ) + 1 ≤ high := by exact_mod_cast h
  unfold fraction
  linarith

/-- Fractions of trimmed digits compare digit by digit. -/
theorem compare_fraction_cons {low high : Nat} {left right : List Nat}
    (hleft : Trimmed (low :: left)) (hright : Trimmed (high :: right)) :
    compare (fraction (low :: left)) (fraction (high :: right)) =
      (compare low high).then (compare (fraction left) (fraction right)) := by
  rcases lt_trichotomy low high with h | h | h
  · rw [compare_lt_iff_lt.mpr h]
    exact compare_lt_iff_lt.mpr (fraction_lt_of_head h hleft right)
  · subst h
    have htenth : (0 : ℚ) < 10⁻¹ := by norm_num
    rw [compare_eq_iff_eq.mpr rfl, Ordering.eq_then, fraction, fraction, div_eq_mul_inv, div_eq_mul_inv,
      ← cmp_eq_compare, ← cmp_eq_compare, cmp_mul_pos_right htenth, cmp_add_left]
  · rw [compare_gt_iff_gt.mpr h]
    exact compare_gt_iff_gt.mpr (fraction_lt_of_head h hright left)

/-- The fraction of significant digits is between one tenth and one. -/
theorem fraction_significant {number : Nat} (h : number ≠ 0) :
    1 / 10 ≤ fraction (significant number) ∧ fraction (significant number) < 1 := by
  refine ⟨?_, fraction_lt_one (trimmed_significant number)⟩
  have hne := significant_ne_nil h
  have hhead := head_significant_ne_zero hne
  cases hdigits : significant number with
  | nil => exact absurd hdigits hne
  | cons digit digits =>
    simp only [hdigits, List.head_cons] at hhead
    have hcast : (1 : ℚ) ≤ digit := by exact_mod_cast Nat.pos_of_ne_zero hhead
    have hrest := fraction_nonneg digits
    unfold fraction
    linarith

end RecordBytes.Digits
