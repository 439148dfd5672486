import RecordBytes.Proofs.Bytes.Order

/-!
# Words with their sign bit flipped

Flipping the sign bit of a signed word moves it up by half the range, so that unsigned words are left in the
order of the signed ones.

Main results:

- `SignedWord.toNat_flip`: a word with its sign bit flipped, as an unsigned number.
- `SignedWord.settled_flip`: signed words compare as the big-endian forms of the flipped ones.
-/

namespace RecordBytes

/-- Numbers compare as they do after both are moved by the same distance. -/
theorem compare_of_shift {left right : Nat} {a b shift : Int} (hleft : (left : Int) = a + shift)
    (hright : (right : Int) = b + shift) : compare left right = compare a b := by
  rcases lt_trichotomy a b with h | h | h
  · rw [compare_lt_iff_lt.mpr h, Nat.compare_eq_lt]
    omega
  · rw [compare_eq_iff_eq.mpr h, Nat.compare_eq_eq]
    omega
  · rw [compare_gt_iff_gt.mpr h, Nat.compare_eq_gt]
    omega

/-- A word of some bytes is below 256 to the number of bytes. -/
theorem BigEndian.toNat_lt_pow {width : Nat} (word : BitVec (8 * width)) :
    word.toNat < 256 ^ width := by
  have hlt := word.isLt
  rwa [pow_mul] at hlt

/-- The big-endian form of a word spells the word. -/
@[simp]
theorem BigEndian.toNat_ofNat_word {width : Nat} (word : BitVec (8 * width)) :
    BigEndian.toNat (BigEndian.ofNat width word.toNat) = word.toNat := by
  rw [BigEndian.toNat_ofNat, Nat.mod_eq_of_lt (BigEndian.toNat_lt_pow word)]

namespace SignedWord

/-- Flipping the bit above the low-order ones of a number. -/
theorem xor_two_pow (number count : Nat) :
    number ^^^ 2 ^ count =
      2 ^ count * (number / 2 ^ count ^^^ 1) + number % 2 ^ count := by
  have hdiv : (number ^^^ 2 ^ count) / 2 ^ count = number / 2 ^ count ^^^ 1 := by
    rw [Nat.xor_div_two_pow, Nat.div_self (Nat.two_pow_pos count)]
  have hmod : (number ^^^ 2 ^ count) % 2 ^ count = number % 2 ^ count := by
    rw [Nat.xor_mod_two_pow, Nat.mod_self, Nat.xor_zero]
  have hsplit := Nat.div_add_mod (number ^^^ 2 ^ count) (2 ^ count)
  rw [hdiv, hmod] at hsplit
  exact hsplit.symm

/-- A word with its sign bit flipped, as an unsigned number, is the signed word moved up by half the
range. -/
theorem toNat_flip {count : Nat} (word : BitVec count) (hpos : 0 < count) :
    ((word ^^^ BitVec.intMin count).toNat : Int) = word.toInt + (2 ^ (count - 1) : Nat) := by
  have hlt := word.isLt
  have hrange : 2 ^ count = 2 ^ (count - 1) * 2 := by
    rw [← pow_succ, Nat.sub_add_cancel hpos]
  have hsplit := Nat.div_add_mod word.toNat (2 ^ (count - 1))
  have hmod := Nat.mod_lt word.toNat (Nat.two_pow_pos (count - 1))
  rw [BitVec.toNat_xor, BitVec.toNat_intMin_of_pos hpos, xor_two_pow,
    BitVec.toInt_eq_toNat_cond, hrange]
  have hhalf : word.toNat / 2 ^ (count - 1) < 2 := by
    rw [Nat.div_lt_iff_lt_mul (Nat.two_pow_pos _)]
    omega
  rcases Nat.le_one_iff_eq_zero_or_eq_one.mp (Nat.le_of_lt_succ hhalf) with h | h
  · rw [h] at hsplit ⊢
    rw [if_pos (by omega)]
    simp only [Nat.zero_xor]
    omega
  · rw [h] at hsplit ⊢
    rw [if_neg (by omega)]
    simp only [Nat.xor_self]
    omega

/-- Flipping the sign bit twice changes nothing. -/
@[simp]
theorem flip_flip {count : Nat} (word : BitVec count) :
    word ^^^ BitVec.intMin count ^^^ BitVec.intMin count = word := by
  rw [BitVec.xor_assoc, BitVec.xor_self, BitVec.xor_zero]

/-- Signed words compare as the big-endian forms of the words with their sign bit flipped. -/
theorem settled_flip {width : Nat} (hpos : 0 < width) (left right : BitVec (8 * width)) :
    Bytes.Settled (compare left.toInt right.toInt)
      (BigEndian.ofNat width (left ^^^ BitVec.intMin _).toNat)
      (BigEndian.ofNat width (right ^^^ BitVec.intMin _).toNat) := by
  rw [← compare_of_shift (toNat_flip left (by omega)) (toNat_flip right (by omega))]
  exact BigEndian.settled_ofNat (BigEndian.toNat_lt_pow _) (BigEndian.toNat_lt_pow _)

end SignedWord
end RecordBytes
