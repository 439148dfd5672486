import Mathlib
import RecordBytes.Proofs.Bytes.TwosComplement
import RecordBytes.Proofs.Cursor.Yields
import RecordBytes.Sortable.Bigint

/-!
# Sortable integers of any size

An integer with a longer form is further from zero, so the headers order integers of different lengths or
signs, and the forms order those of one length and sign.

Main results:

- `Bigint.settled_encode`: integers compare as their sortable forms.
- `Bigint.yields_read`: a sortable form is read back.
-/

namespace RecordBytes.Bigint

open TwosComplement

/-- The header and the form of an integer. -/
def form (number : Int) : Bytes :=
  BigEndian.ofNat 4 (header number (size number)) ++ ofInt number

/-- An integer is written when a header can tell its length. -/
theorem encode_eq_ok {number : Int} {bytes : Bytes} :
    encode number = .ok bytes ↔ size number ≤ maxSize ∧ form number = bytes := by
  unfold encode form
  by_cases h : maxSize < size number
  · simp [h]
  · simp [h, Nat.le_of_not_lt h]

theorem header_lt {number : Int} (h : size number ≤ maxSize) :
    header number (size number) < 256 ^ 4 := by
  unfold maxSize at h
  unfold header maxSize
  split <;> omega

/-- The smaller of two integers has the smaller header, or the integers have one size and sign. -/
theorem header_lt_or {left right : Int} (h : left < right) (hleft : size left ≤ maxSize)
    (hright : size right ≤ maxSize) :
    header left (size left) < header right (size right) ∨
      size left = size right ∧ (left < 0 ↔ right < 0) := by
  have hpos := size_pos left
  have hmax : maxSize = 0x7FFF_FFFF := rfl
  unfold header
  by_cases hright' : right < 0
  · have hleft' : left < 0 := lt_trans h hright'
    have hsize := size_le_of_neg hright' (le_of_lt h)
    rw [if_pos hleft', if_pos hright']
    omega
  · by_cases hleft' : left < 0
    · rw [if_pos hleft', if_neg hright']
      omega
    · have hsize := size_le_of_nonneg (not_lt.mp hleft') (le_of_lt h)
      rw [if_neg hleft', if_neg hright']
      omega

/-- The smaller of two integers has the smaller form. -/
theorem below_form {left right : Int} (h : left < right) (hleft : size left ≤ maxSize)
    (hright : size right ≤ maxSize) : Bytes.Below (form left) (form right) := by
  unfold form
  rcases header_lt_or h hleft hright with hheader | ⟨hsize, hsign⟩
  · apply Bytes.Below.append_right
    apply BigEndian.below_ofNat
    rw [Nat.mod_eq_of_lt (header_lt hleft), Nat.mod_eq_of_lt (header_lt hright)]
    exact hheader
  · have hheader : header left (size left) = header right (size right) := by
      unfold header
      simp only [hsize, hsign]
    have hsettled := settled_ofInt hsize hsign
    rw [compare_lt_iff_lt.mpr h] at hsettled
    rw [hheader]
    exact Bytes.Below.append_left _ hsettled

/-- Integers compare as their sortable forms. -/
theorem settled_encode {left right : Int} {leftForm rightForm : Bytes}
    (hleft : encode left = .ok leftForm) (hright : encode right = .ok rightForm) :
    Bytes.Settled (compare left right) leftForm rightForm := by
  rcases encode_eq_ok.mp hleft with ⟨hleftSize, rfl⟩
  rcases encode_eq_ok.mp hright with ⟨hrightSize, rfl⟩
  apply Bytes.Settled.of_compare
  · intro h
    exact below_form h hleftSize hrightSize
  · intro h
    exact below_form h hrightSize hleftSize

/-- A header tells the sign and the size. -/
theorem yields_readHeader {number : Int} (h : size number ≤ maxSize) :
    Scan.Yields readHeader (BigEndian.ofNat 4 (header number (size number)))
      (decide (number < 0), size number) := by
  apply (Scan.yields_number "big integer header" (header_lt h)).bind_pure
  have hpos := size_pos number
  have hmax : maxSize = 0x7FFF_FFFF := rfl
  unfold header
  by_cases hneg : number < 0
  · have hsub : maxSize - (maxSize - size number) = size number := by omega
    rw [if_pos hneg, if_neg (by omega), hsub]
    simp [hneg]
  · rw [if_neg hneg, if_pos (Nat.le_add_right _ _), Nat.add_sub_cancel_left]
    simp [hneg]

/-- A sortable form is read back. -/
theorem yields_read {number : Int} {bytes : Bytes} (h : encode number = .ok bytes) :
    Scan.Yields read bytes number := by
  rcases encode_eq_ok.mp h with ⟨hsize, rfl⟩
  apply (yields_readHeader hsize).bind
  apply (Scan.yields_take "big integer" (length_ofInt number)).bind_pure
  simp

end RecordBytes.Bigint
