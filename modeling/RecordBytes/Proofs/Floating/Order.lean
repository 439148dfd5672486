import Mathlib
import RecordBytes.Floating.Basic
import RecordBytes.Proofs.Bytes.SignedWord

/-!
# The order of floating-point numbers

A finite number stands for a rational, and the infinities stand below and above all of them.  Numbers are
ordered by what they stand for; negative zero comes before positive zero, and every NaN, all of them alike,
comes after infinity.  The sorting words of numbers have the same order as unsigned integers.

Main results:

- `Floating.finite_strictMono`: the rational of a magnitude grows with the magnitude.
- `Floating.compare_eq_sortable`: numbers compare as their sorting words.
- `Floating.ofSortable_sortable`: a sorting word gives back the number, and the canonical NaN for a NaN.
-/

namespace RecordBytes.Floating

variable {precision : Precision}

/-! ## What numbers stand for -/

/-- The rational that a finite number stands for. -/
def toRat (bits : precision.Bits) : ℚ :=
  (if bits.msb then -1 else 1) * significand bits * 2 ^ exponent bits

/-- Where a number that is not a NaN stands among the rationals and the two infinities. -/
def place (bits : precision.Bits) : WithBot (WithTop ℚ) :=
  if magnitude bits = infinity precision then if bits.msb then ⊥ else ⊤
  else ((toRat bits : WithTop ℚ) : WithBot (WithTop ℚ))

/-- The numerical order, with negative zero before positive zero and every NaN, all equal, last. -/
protected def compare (left right : precision.Bits) : Ordering :=
  if isNaN left && isNaN right then .eq
  else if isNaN left then .gt
  else if isNaN right then .lt
  else (compare (place left) (place right)).then (compare right.msb.toNat left.msb.toNat)

/-! ## Sign and magnitude -/

/-- A number is a sign bit and a magnitude. -/
theorem bits_eq (precision : Precision) :
    8 * precision.bytes = precision.fractionBits + precision.exponentBits + 1 := by
  cases precision <;> rfl

/-- The bits of a number, as an unsigned integer, are its magnitude behind its sign. -/
theorem toNat_eq (bits : precision.Bits) :
    bits.toNat = magnitude bits +
      if bits.msb then 2 ^ (precision.fractionBits + precision.exponentBits) else 0 := by
  have hbits := bits_eq precision
  have hlt : bits.toNat < 2 ^ (precision.fractionBits + precision.exponentBits + 1) := by
    rw [← hbits]
    exact bits.isLt
  have hhalf : 8 * precision.bytes - 1 = precision.fractionBits + precision.exponentBits := by omega
  have hmsb : bits.msb =
      decide (2 ^ (precision.fractionBits + precision.exponentBits) ≤ bits.toNat) := by
    rw [BitVec.msb_eq_decide, hhalf]
  rw [pow_succ] at hlt
  unfold magnitude
  rw [hmsb]
  by_cases h : 2 ^ (precision.fractionBits + precision.exponentBits) ≤ bits.toNat
  · rw [Nat.mod_eq_sub_mod h, Nat.mod_eq_of_lt (by omega)]
    simp [h]
  · rw [Nat.mod_eq_of_lt (by omega)]
    simp [h]

/-- Numbers with one sign and one magnitude are the same. -/
theorem ext {left right : precision.Bits} (hmsb : left.msb = right.msb)
    (hmagnitude : magnitude left = magnitude right) : left = right := by
  apply BitVec.eq_of_toNat_eq
  rw [toNat_eq left, toNat_eq right, hmsb, hmagnitude]

/-- The place of a number in the order of sign and magnitude; the negative numbers, negative zero among
them, are below zero. -/
def rank (bits : precision.Bits) : Int :=
  if bits.msb then -1 - magnitude bits else magnitude bits

/-- Numbers of one rank are the same. -/
theorem rank_injective {left right : precision.Bits} (h : rank left = rank right) : left = right := by
  unfold rank at h
  cases hleft : left.msb <;> cases hright : right.msb <;> simp only [hleft, hright] at h
  · exact ext (by rw [hleft, hright]) (by simpa using h)
  · simp at h
    omega
  · simp at h
    omega
  · exact ext (by rw [hleft, hright]) (by simpa using h)

/-! ## The rational of a magnitude -/

/-- The rational that a finite number of this magnitude stands for, up to its sign. -/
def finite (precision : Precision) (size : Nat) : ℚ :=
  (if size < 2 ^ precision.fractionBits then (size : ℚ)
    else (size % 2 ^ precision.fractionBits : Nat) + 2 ^ precision.fractionBits) *
  2 ^ ((max 1 (size / 2 ^ precision.fractionBits : Nat) : Int) - precision.bias -
    precision.fractionBits)

theorem toRat_eq (bits : precision.Bits) :
    toRat bits = (if bits.msb then -1 else 1) * finite precision (magnitude bits) := by
  unfold toRat finite significand exponent
  rw [mul_assoc]
  split_ifs <;> push_cast <;> rfl

/-- A magnitude is a power of two and a number of units within it; the smallest power of two has no hidden
unit in front. -/
theorem finite_block (block : Nat) {rest : Nat} (h : rest < 2 ^ precision.fractionBits) :
    finite precision (2 ^ precision.fractionBits * block + rest) =
      (rest + if block = 0 then 0 else 2 ^ precision.fractionBits) *
        2 ^ ((max 1 block : Nat) - (precision.bias : Int) - precision.fractionBits) := by
  have hpos : 0 < 2 ^ precision.fractionBits := Nat.two_pow_pos _
  have hdiv : (2 ^ precision.fractionBits * block + rest) / 2 ^ precision.fractionBits = block := by
    rw [Nat.mul_add_div hpos, Nat.div_eq_of_lt h, Nat.add_zero]
  have hmod : (2 ^ precision.fractionBits * block + rest) % 2 ^ precision.fractionBits = rest := by
    rw [Nat.mul_add_mod, Nat.mod_eq_of_lt h]
  have hsmall : 2 ^ precision.fractionBits * block + rest < 2 ^ precision.fractionBits ↔ block = 0 := by
    rw [← Nat.div_eq_zero_iff_lt hpos, hdiv]
  unfold finite
  simp only [hdiv, hmod, hsmall]
  by_cases hblock : block = 0
  · simp [hblock]
  · simp [hblock]

/-- Within one power of two a magnitude counts units of the same size. -/
theorem finite_lt_succ_of_within (block : Nat) {rest : Nat}
    (h : rest + 1 < 2 ^ precision.fractionBits) :
    finite precision (2 ^ precision.fractionBits * block + rest) <
      finite precision (2 ^ precision.fractionBits * block + (rest + 1)) := by
  rw [finite_block block h, finite_block block (Nat.lt_of_succ_lt h)]
  apply mul_lt_mul_of_pos_right _ (by positivity)
  push_cast
  linarith

/-- A power of two is one unit above the largest magnitude below it. -/
theorem finite_lt_succ_of_edge (block : Nat) {rest : Nat}
    (h : rest + 1 = 2 ^ precision.fractionBits) :
    finite precision (2 ^ precision.fractionBits * block + rest) <
      finite precision (2 ^ precision.fractionBits * block + (rest + 1)) := by
  have hcast : (rest : ℚ) + 1 = 2 ^ precision.fractionBits := by exact_mod_cast h
  have hnext : 2 ^ precision.fractionBits * block + (rest + 1) =
      2 ^ precision.fractionBits * (block + 1) + 0 := by
    rw [h, Nat.mul_add, Nat.mul_one, Nat.add_zero]
  rw [hnext, finite_block block (by omega), finite_block (block + 1) (Nat.two_pow_pos _)]
  by_cases hblock : block = 0
  · subst hblock
    apply mul_lt_mul_of_pos_right _ (by positivity)
    simp only [if_true, Nat.cast_zero, zero_add, one_ne_zero, if_false]
    linarith
  · have hmax : max 1 block = block := by omega
    have hmax' : max 1 (block + 1) = block + 1 := by omega
    have hdouble : (2 : ℚ) ^ (((block + 1 : Nat) : Int) - precision.bias - precision.fractionBits) =
        2 * 2 ^ ((block : Int) - precision.bias - precision.fractionBits) := by
      rw [← zpow_one_add₀ (by norm_num : (2 : ℚ) ≠ 0)]
      congr 1
      push_cast
      ring
    have hunit : (0 : ℚ) < 2 ^ ((block : Int) - precision.bias - precision.fractionBits) := by
      positivity
    rw [hmax, hmax', hdouble, if_neg hblock, if_neg (Nat.succ_ne_zero block), Nat.cast_zero]
    nlinarith

/-- The rational of a magnitude grows with the magnitude. -/
theorem finite_strictMono (precision : Precision) : StrictMono (finite precision) := by
  apply strictMono_nat_of_lt_succ
  intro size
  have hlt := Nat.mod_lt size (Nat.two_pow_pos precision.fractionBits)
  rw [← Nat.div_add_mod size (2 ^ precision.fractionBits), Nat.add_assoc]
  rcases Nat.lt_or_eq_of_le (Nat.succ_le_of_lt hlt) with h | h
  · exact finite_lt_succ_of_within _ h
  · exact finite_lt_succ_of_edge _ h

theorem finite_nonneg (precision : Precision) (size : Nat) : 0 ≤ finite precision size := by
  unfold finite
  positivity

/-! ## Numbers compare as their ranks -/

/-- A negative number that is not a NaN has a smaller place than those of smaller magnitude. -/
theorem place_lt_of_negative {left right : precision.Bits} (hleft : left.msb = true)
    (hright : right.msb = true) (hnumber : isNaN left = false)
    (h : magnitude right < magnitude left) : place left < place right := by
  have hle : magnitude left ≤ infinity precision := by simpa [isNaN] using hnumber
  have hfinite : magnitude right ≠ infinity precision := by omega
  unfold place
  rw [if_neg hfinite]
  by_cases hinfinite : magnitude left = infinity precision
  · rw [if_pos hinfinite, if_pos hleft]
    exact WithBot.bot_lt_coe _
  · rw [if_neg hinfinite, WithBot.coe_lt_coe, WithTop.coe_lt_coe, toRat_eq, toRat_eq, hleft, hright]
    have hgrow := finite_strictMono precision h
    simp only [if_true]
    linarith

/-- A positive number that is not a NaN has a greater place than those of smaller magnitude. -/
theorem place_lt_of_positive {left right : precision.Bits} (hleft : left.msb = false)
    (hright : right.msb = false) (hnumber : isNaN right = false)
    (h : magnitude left < magnitude right) : place left < place right := by
  have hle : magnitude right ≤ infinity precision := by simpa [isNaN] using hnumber
  have hfinite : magnitude left ≠ infinity precision := by omega
  unfold place
  rw [if_neg hfinite]
  by_cases hinfinite : magnitude right = infinity precision
  · rw [if_pos hinfinite, hright]
    simp only [Bool.false_eq_true, if_false]
    rw [← WithBot.coe_top, WithBot.coe_lt_coe]
    exact WithTop.coe_lt_top _
  · rw [if_neg hinfinite, WithBot.coe_lt_coe, WithTop.coe_lt_coe, toRat_eq, toRat_eq, hleft, hright]
    have hgrow := finite_strictMono precision h
    simpa using hgrow

/-- A negative number never has a greater place than a positive one. -/
theorem place_le_of_signs {left right : precision.Bits} (hleft : left.msb = true)
    (hright : right.msb = false) : place left ≤ place right := by
  have hnegative : place left ≤ ((0 : WithTop ℚ) : WithBot (WithTop ℚ)) := by
    unfold place
    split
    · simp
    · rw [WithBot.coe_le_coe, ← WithTop.coe_zero, WithTop.coe_le_coe, toRat_eq, hleft]
      have := finite_nonneg precision (magnitude left)
      simp only [if_true]
      linarith
  have hpositive : ((0 : WithTop ℚ) : WithBot (WithTop ℚ)) ≤ place right := by
    unfold place
    split
    · simp [hright]
    · rw [WithBot.coe_le_coe, ← WithTop.coe_zero, WithTop.coe_le_coe, toRat_eq, hright]
      have := finite_nonneg precision (magnitude right)
      simpa using this
  exact le_trans hnegative hpositive

/-- Of two numbers that are not NaNs, the one of smaller rank is less. -/
theorem compare_eq_lt_of_rank {left right : precision.Bits} (hleft : isNaN left = false)
    (hright : isNaN right = false) (h : rank left < rank right) :
    Floating.compare left right = .lt := by
  unfold Floating.compare
  simp only [hleft, hright, Bool.and_false, Bool.false_eq_true, if_false]
  rw [Ordering.then_eq_lt]
  unfold rank at h
  cases hl : left.msb <;> cases hr : right.msb <;>
    simp only [hl, hr, if_true, Bool.false_eq_true, if_false] at h
  · left
    exact compare_lt_iff_lt.mpr (place_lt_of_positive hl hr hright (by omega))
  · omega
  · rcases lt_or_eq_of_le (place_le_of_signs hl hr) with hplace | hplace
    · left
      exact compare_lt_iff_lt.mpr hplace
    · right
      exact ⟨compare_eq_iff_eq.mpr hplace, rfl⟩
  · left
    exact compare_lt_iff_lt.mpr (place_lt_of_negative hl hr hleft (by omega))

/-- Comparing the other way round. -/
theorem compare_swap (left right : precision.Bits) :
    (Floating.compare left right).swap = Floating.compare right left := by
  unfold Floating.compare
  cases isNaN left <;> cases isNaN right <;>
    simp [Ordering.swap_then, ← Std.OrientedCmp.eq_swap]

/-- Numbers that are not NaNs compare as their ranks. -/
theorem compare_eq_rank {left right : precision.Bits} (hleft : isNaN left = false)
    (hright : isNaN right = false) :
    Floating.compare left right = compare (rank left) (rank right) := by
  rcases lt_trichotomy (rank left) (rank right) with h | h | h
  · rw [compare_eq_lt_of_rank hleft hright h, compare_lt_iff_lt.mpr h]
  · rcases rank_injective h with rfl
    simp [Floating.compare]
  · rw [← compare_swap, compare_eq_lt_of_rank hright hleft h, compare_gt_iff_gt.mpr h]
    rfl

/-! ## Sorting words -/

theorem bytes_pos (precision : Precision) : 0 < precision.bytes := by
  cases precision <;> decide

/-- The canonical NaN is positive, and its magnitude is past infinity. -/
theorem canonicalNaN_spec (precision : Precision) :
    (canonicalNaN precision).msb = false ∧ infinity precision < magnitude (canonicalNaN precision) := by
  cases precision <;> decide

@[simp]
theorem isNaN_canonicalNaN (precision : Precision) : isNaN (canonicalNaN precision) = true := by
  simpa [isNaN] using (canonicalNaN_spec precision).2

/-- Numbers that are not NaNs are canonical. -/
theorem canonical_of_number {bits : precision.Bits} (h : isNaN bits = false) :
    canonical bits = bits := by
  simp [canonical, h]

theorem canonical_of_isNaN {bits : precision.Bits} (h : isNaN bits = true) :
    canonical bits = canonicalNaN precision := by
  simp [canonical, h]

@[simp]
theorem canonical_canonical (bits : precision.Bits) : canonical (canonical bits) = canonical bits := by
  cases h : isNaN bits with
  | true => rw [canonical_of_isNaN h, canonical_of_isNaN (isNaN_canonicalNaN precision)]
  | false => rw [canonical_of_number h, canonical_of_number h]

/-- A number that is not a NaN ranks below the canonical NaN. -/
theorem rank_lt_canonicalNaN {bits : precision.Bits} (h : isNaN bits = false) :
    rank bits < rank (canonicalNaN precision) := by
  rcases canonicalNaN_spec precision with ⟨hmsb, hpast⟩
  have hle : magnitude bits ≤ infinity precision := by simpa [isNaN] using h
  unfold rank
  rw [hmsb]
  split <;> simp <;> omega

/-- A sorting word, as an unsigned number, is the rank of the canonical number moved up by half the
range. -/
theorem toNat_sortable (bits : precision.Bits) :
    ((sortable bits).toNat : Int) =
      rank (canonical bits) + (2 ^ (precision.fractionBits + precision.exponentBits) : Nat) := by
  have hbits := bits_eq precision
  have hhalf : 8 * precision.bytes - 1 = precision.fractionBits + precision.exponentBits := by omega
  have hsize := toNat_eq (canonical bits)
  unfold sortable rank
  cases hmsb : (canonical bits).msb with
  | true =>
    have hlt := (canonical bits).isLt
    have hrange : 2 ^ (8 * precision.bytes) =
        2 ^ (precision.fractionBits + precision.exponentBits) * 2 := by rw [hbits, pow_succ]
    rw [hmsb, if_pos rfl] at hsize
    rw [if_pos rfl, if_pos rfl, BitVec.toNat_not]
    omega
  | false =>
    rw [hmsb, if_neg Bool.false_ne_true, Nat.add_zero] at hsize
    rw [if_neg Bool.false_ne_true, if_neg Bool.false_ne_true,
      SignedWord.toNat_flip _ (by omega), BitVec.toInt_eq_toNat_of_msb hmsb, hsize, hhalf]

/-- Numbers compare as their sorting words. -/
theorem compare_eq_sortable (left right : precision.Bits) :
    Floating.compare left right = compare (sortable left).toNat (sortable right).toNat := by
  rw [compare_of_shift (toNat_sortable left) (toNat_sortable right)]
  cases hleft : isNaN left <;> cases hright : isNaN right
  · rw [canonical_of_number hleft, canonical_of_number hright, compare_eq_rank hleft hright]
  · rw [canonical_of_number hleft, canonical_of_isNaN hright,
      compare_lt_iff_lt.mpr (rank_lt_canonicalNaN hleft)]
    simp [Floating.compare, hleft, hright]
  · rw [canonical_of_isNaN hleft, canonical_of_number hright,
      compare_gt_iff_gt.mpr (rank_lt_canonicalNaN hright)]
    simp [Floating.compare, hleft, hright]
  · rw [canonical_of_isNaN hleft, canonical_of_isNaN hright]
    simp [Floating.compare, hleft, hright]

/-- A sorting word gives back the number, and the canonical NaN for a NaN. -/
theorem ofSortable_sortable (bits : precision.Bits) : ofSortable (sortable bits) = canonical bits := by
  have hpos : 0 < 8 * precision.bytes := by
    have := bytes_pos precision
    omega
  unfold ofSortable sortable
  cases hmsb : (canonical bits).msb with
  | true => simp [BitVec.msb_not, hmsb, hpos]
  | false => simp [BitVec.msb_xor, BitVec.msb_intMin, hmsb, hpos]

/-- Equal numbers, all NaNs among themselves, have one canonical form. -/
theorem compare_eq_eq {left right : precision.Bits} :
    Floating.compare left right = .eq ↔ canonical left = canonical right := by
  rw [compare_eq_sortable, Nat.compare_eq_eq]
  constructor
  · intro h
    rw [← ofSortable_sortable, ← ofSortable_sortable right, BitVec.eq_of_toNat_eq h]
  · intro h
    unfold sortable
    rw [h]

end RecordBytes.Floating
