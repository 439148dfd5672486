import Mathlib
import RecordBytes.Bytes.TwosComplement
import RecordBytes.Proofs.Bytes.SignedWord

/-!
# Two's-complement forms of integers

The shortest two's-complement form of an integer spells the integer itself, or for a negative one the integer
moved up by 256 to its size.  It is at least as long as that of any integer of smaller magnitude and the
same sign, and among forms of one length and sign the byte order is the numerical one.

Main results:

- `TwosComplement.toInt_ofInt`: reading returns the integer that was written.
- `TwosComplement.toInt_ofNat`: a word of a fixed number of bytes is read as a signed number.
- `TwosComplement.size_le_of_nonneg`, `TwosComplement.size_le_of_neg`: sizes grow with the magnitude.
- `TwosComplement.size_toInt_le`: what a string spells is no longer than the string.
- `TwosComplement.settled_ofInt`: integers of one size and sign compare as their forms.
-/

namespace RecordBytes.TwosComplement

/-! ## Sizes -/

theorem log2_mono {low high : Nat} (h : low ≤ high) : low.log2 ≤ high.log2 := by
  rw [Nat.log2_eq_log_two, Nat.log2_eq_log_two]
  exact Nat.log_mono_right h

/-- An integer that is not negative is no longer than a greater one. -/
theorem size_le_of_nonneg {low high : Int} (hlow : 0 ≤ low) (h : low ≤ high) :
    size low ≤ size high := by
  rcases Int.eq_ofNat_of_zero_le hlow with ⟨low, rfl⟩
  rcases Int.eq_ofNat_of_zero_le (le_trans hlow h) with ⟨high, rfl⟩
  have hlog := log2_mono (Int.ofNat_le.mp h)
  show (low.log2 + 1) / 8 + 1 ≤ (high.log2 + 1) / 8 + 1
  omega

/-- A negative integer is no longer than a smaller one. -/
theorem size_le_of_neg {low high : Int} (hhigh : high < 0) (h : low ≤ high) :
    size high ≤ size low := by
  rcases Int.eq_negSucc_of_lt_zero (lt_of_le_of_lt h hhigh) with ⟨low, rfl⟩
  rcases Int.eq_negSucc_of_lt_zero hhigh with ⟨high, rfl⟩
  have hlog := log2_mono (show high ≤ low by omega)
  show (high.log2 + 1) / 8 + 1 ≤ (low.log2 + 1) / 8 + 1
  omega

/-- Half the range of the words that have the size of an integer. -/
def half (number : Int) : Nat :=
  128 * 256 ^ (size number - 1)

theorem size_pos (number : Int) : 0 < size number := by
  cases number <;> exact Nat.succ_pos _

/-- The words of the size of an integer are twice half their range. -/
theorem pow_size (number : Int) : 256 ^ size number = 2 * half number := by
  have hsize : size number = size number - 1 + 1 := by
    have := size_pos number
    omega
  unfold half
  rw [hsize, pow_succ, Nat.add_sub_cancel]
  ring

/-- A number below two to its bits is below half the range of the bytes that also hold a sign. -/
theorem lt_half_of_log2 (magnitude : Nat) :
    magnitude < 128 * 256 ^ ((magnitude.log2 + 1) / 8) := by
  have hbits : magnitude.log2 + 1 ≤ 7 + 8 * ((magnitude.log2 + 1) / 8) := by omega
  calc
    magnitude < 2 ^ (magnitude.log2 + 1) := Nat.lt_log2_self
    _ ≤ 2 ^ (7 + 8 * ((magnitude.log2 + 1) / 8)) := Nat.pow_le_pow_right (by decide) hbits
    _ = 128 * 256 ^ ((magnitude.log2 + 1) / 8) := by rw [pow_add, pow_mul]; norm_num

/-- An integer is inside the range of the signed words of its size. -/
theorem bounds (number : Int) : -(half number : Int) ≤ number ∧ number < half number := by
  cases number with
  | ofNat magnitude =>
    have hlt : magnitude < half (Int.ofNat magnitude) := lt_half_of_log2 magnitude
    rw [Int.ofNat_eq_natCast] at hlt ⊢
    omega
  | negSucc complement =>
    have hlt : complement < half (Int.negSucc complement) := lt_half_of_log2 complement
    omega

/-- A number that fits the bits that some bytes leave besides a sign has its digits in those bits. -/
theorem log2_of_lt_half {magnitude width : Nat} (h : magnitude < 128 * 256 ^ width) :
    (magnitude.log2 + 1) / 8 ≤ width := by
  by_cases hzero : magnitude = 0
  · subst hzero
    exact Nat.zero_le _
  · have hbits : magnitude < 2 ^ (7 + 8 * width) := by
      rw [pow_add, pow_mul]
      norm_num
      exact h
    have hlog := (Nat.log2_lt hzero).mpr hbits
    omega

/-- An integer inside the range of the signed words of some bytes is no longer than those bytes. -/
theorem size_le_of_bounds {number : Int} {width : Nat} (hlow : -(128 * 256 ^ width : Nat) ≤ number)
    (hhigh : number < (128 * 256 ^ width : Nat)) : size number ≤ width + 1 := by
  cases number with
  | ofNat magnitude =>
    exact Nat.succ_le_succ (log2_of_lt_half (Int.ofNat_lt.mp hhigh))
  | negSucc complement =>
    exact Nat.succ_le_succ (log2_of_lt_half (by omega))

/-! ## Words -/

/-- The number that the form of an integer spells. -/
def word (number : Int) : Nat :=
  (number % (256 ^ size number : Nat)).toNat

theorem word_of_nonneg {number : Int} (h : 0 ≤ number) : (word number : Int) = number := by
  have hbounds := bounds number
  have hpow := pow_size number
  unfold word
  rw [Int.emod_eq_of_lt h (by omega), Int.toNat_of_nonneg h]

theorem word_of_neg {number : Int} (h : number < 0) :
    (word number : Int) = number + (256 ^ size number : Nat) := by
  have hbounds := bounds number
  have hpow := pow_size number
  have hmod : number % (256 ^ size number : Nat) = number + (256 ^ size number : Nat) := by
    rw [← Int.add_emod_right, Int.emod_eq_of_lt (by omega) (by omega)]
  unfold word
  rw [hmod, Int.toNat_of_nonneg (by omega)]

theorem word_lt (number : Int) : word number < 256 ^ size number := by
  have hbounds := bounds number
  have hpow := pow_size number
  rcases le_or_gt 0 number with h | h
  · have hword := word_of_nonneg h
    omega
  · have hword := word_of_neg h
    omega

/-- A word is in the upper half of its range exactly when the integer is negative. -/
theorem half_le_word (number : Int) : half number ≤ word number ↔ number < 0 := by
  have hbounds := bounds number
  have hpow := pow_size number
  rcases le_or_gt 0 number with h | h
  · have hword := word_of_nonneg h
    omega
  · have hword := word_of_neg h
    omega

/-- The first byte of a string tells whether its number is in the upper half of the range. -/
theorem le_headD {bytes : Bytes} {width : Nat} (h : bytes.length = width + 1) :
    128 ≤ bytes.headD 0 ↔ 128 * 256 ^ width ≤ BigEndian.toNat bytes := by
  cases bytes with
  | nil => simp at h
  | cons byte rest =>
    have hlength : rest.length = width := by simpa using h
    have hrest := BigEndian.toNat_lt rest
    rw [hlength] at hrest
    simp only [List.headD_cons, BigEndian.toNat, hlength]
    rw [UInt8.le_iff_toNat_le]
    constructor
    · intro hle
      have hmul := Nat.mul_le_mul_right (256 ^ width) hle
      exact le_trans hmul (Nat.le_add_right _ _)
    · intro hle
      by_contra hlt
      have hmul := Nat.mul_le_mul_right (256 ^ width) (Nat.lt_of_not_le hlt)
      rw [Nat.succ_mul] at hmul
      have h128 : UInt8.toNat 128 = 128 := rfl
      rw [h128] at hmul
      omega

/-- Reading returns the integer that was written. -/
@[simp]
theorem toInt_ofInt (number : Int) : toInt (ofInt number) = number := by
  have hspelt : BigEndian.toNat (ofInt number) = word number := by
    rw [ofInt, BigEndian.toNat_ofNat]
    exact Nat.mod_eq_of_lt (word_lt number)
  have hlength : (ofInt number).length = size number - 1 + 1 := by
    have := size_pos number
    rw [length_ofInt]
    omega
  have hsign : 128 ≤ (ofInt number).headD 0 ↔ number < 0 := by
    rw [le_headD hlength, hspelt]
    exact half_le_word number
  unfold toInt
  rw [hspelt, length_ofInt]
  by_cases h : number < 0
  · rw [if_pos (hsign.mpr h), word_of_neg h]
    omega
  · rw [if_neg (mt hsign.mp h), word_of_nonneg (not_lt.mp h)]

/-- What a string spells is inside the range of the signed words of its length. -/
theorem toInt_bounds {bytes : Bytes} {width : Nat} (h : bytes.length = width + 1) :
    -(128 * 256 ^ width : Nat) ≤ toInt bytes ∧ toInt bytes < (128 * 256 ^ width : Nat) := by
  have hhead := le_headD h
  have hspelt := BigEndian.toNat_lt bytes
  have hpow : 256 ^ (width + 1) = 2 * (128 * 256 ^ width) := by ring
  rw [h, hpow] at hspelt
  by_cases hnegative : 128 ≤ bytes.headD 0
  · have hhalf := hhead.mp hnegative
    rw [toInt, if_pos hnegative, h, hpow]
    omega
  · have hhalf := mt hhead.mpr hnegative
    rw [toInt, if_neg hnegative]
    omega

/-- What a string spells takes no more bytes than the string has, but for the empty one. -/
theorem size_toInt_le (bytes : Bytes) : size (toInt bytes) ≤ max 1 bytes.length := by
  cases bytes with
  | nil => decide
  | cons byte rest =>
    have hlength : (byte :: rest).length = rest.length + 1 := List.length_cons
    rcases toInt_bounds hlength with ⟨hlow, hhigh⟩
    exact (size_le_of_bounds hlow hhigh).trans (hlength.ge.trans (le_max_right 1 _))

/-- The big-endian form of a word of some bytes is read as the signed number that its bits spell. -/
theorem toInt_ofNat {width : Nat} (hpos : 0 < width) (word : BitVec (8 * width)) :
    toInt (BigEndian.ofNat width word.toNat) = word.toInt := by
  have hlength : (BigEndian.ofNat width word.toNat).length = width - 1 + 1 := by
    rw [BigEndian.length_ofNat, Nat.sub_add_cancel hpos]
  have hsign : 128 ≤ (BigEndian.ofNat width word.toNat).headD 0 ↔
      128 * 256 ^ (width - 1) ≤ word.toNat := by
    rw [le_headD hlength, BigEndian.toNat_ofNat_word]
  have hhalf : 256 ^ width = 2 * (128 * 256 ^ (width - 1)) := by
    rw [← Nat.sub_add_cancel hpos, Nat.add_sub_cancel, pow_succ]
    ring
  have hrange : 2 ^ (8 * width) = 256 ^ width := pow_mul 2 8 width
  rw [toInt, BigEndian.toNat_ofNat_word, BigEndian.length_ofNat, BitVec.toInt_eq_toNat_cond, hrange]
  by_cases hnegative : 128 * 256 ^ (width - 1) ≤ word.toNat
  · rw [if_pos (hsign.mpr hnegative), if_neg (by omega)]
  · rw [if_neg (mt hsign.mp hnegative), if_pos (by omega)]

/-! ## Order -/

/-- Integers of one size and sign compare as their forms. -/
theorem settled_ofInt {left right : Int} (hsize : size left = size right)
    (hsign : left < 0 ↔ right < 0) :
    Bytes.Settled (compare left right) (ofInt left) (ofInt right) := by
  have hcompare : compare (word left) (word right) = compare left right := by
    by_cases h : left < 0
    · have hleft := word_of_neg h
      rw [hsize] at hleft
      exact compare_of_shift hleft (word_of_neg (hsign.mp h))
    · have hleft : (word left : Int) = left + 0 := by
        rw [word_of_nonneg (not_lt.mp h), add_zero]
      have hright : (word right : Int) = right + 0 := by
        rw [word_of_nonneg (not_lt.mp (mt hsign.mpr h)), add_zero]
      exact compare_of_shift hleft hright
  have hleft := word_lt left
  rw [← hcompare]
  unfold ofInt
  rw [hsize] at hleft ⊢
  have hword : (left % (256 ^ size right : Nat)).toNat = word left := by rw [word, hsize]
  rw [hword]
  exact BigEndian.settled_ofNat hleft (word_lt right)

end RecordBytes.TwosComplement
