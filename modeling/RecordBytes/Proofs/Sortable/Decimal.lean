import Mathlib
import RecordBytes.Proofs.Bytes.SignedWord
import RecordBytes.Proofs.Cursor.Yields
import RecordBytes.Proofs.Decimal.Number
import RecordBytes.Sortable.Decimal

/-!
# Sortable decimals

The marker orders decimals by their sign, the exponent and the digits order those of one sign, and the
terminator puts a digit string before its extensions, which stand for greater fractions.

Main results:

- `SortableDecimal.settled_encode`: decimals compare as their sortable forms.
- `SortableDecimal.yields_read`: a sortable form reads as the normal pair of its decimal.
- `SortableDecimal.encode_reduced`: the normal pair has the form of its decimal.
-/

namespace RecordBytes.SortableDecimal

/-! ## Written forms -/

/-- The sortable form of a decimal, by its sign. -/
inductive Form (decimal : Decimal) : Bytes → Prop
  | zero (hzero : decimal.unscaled = 0) : Form decimal [zeroMarker]
  | positive {exponent : Int64} (hpos : 0 < decimal.unscaled)
      (hexponent : decimal.exponent? = some exponent) :
      Form decimal (positiveMarker :: encodeMagnitude exponent decimal.digits)
  | negative {exponent : Int64} (hneg : decimal.unscaled < 0)
      (hexponent : decimal.exponent? = some exponent) :
      Form decimal (negativeMarker :: (encodeMagnitude exponent decimal.digits).complement)

/-- What is written for a decimal is its form. -/
theorem form_of_encode {decimal : Decimal} {bytes : Bytes} (h : encode decimal = .ok bytes) :
    Form decimal bytes := by
  unfold encode at h
  by_cases hzero : decimal.unscaled = 0
  · rw [if_pos hzero] at h
    rcases Except.ok.inj h with rfl
    exact Form.zero hzero
  · rw [if_neg hzero] at h
    cases hexponent : decimal.exponent? with
    | none => simp [hexponent] at h
    | some exponent =>
      rw [hexponent] at h
      rcases Except.ok.inj h with rfl
      rcases lt_or_gt_of_ne hzero with hneg | hpos
      · rw [if_pos hneg]
        exact Form.negative hneg hexponent
      · rw [if_neg hpos.not_gt]
        exact Form.positive hpos hexponent

/-- A form of a decimal is what is written for it. -/
theorem encode_of_form {decimal : Decimal} {bytes : Bytes} (h : Form decimal bytes) :
    encode decimal = .ok bytes := by
  unfold encode
  cases h with
  | zero hzero => rw [if_pos hzero]
  | positive hpos hexponent =>
    rw [if_neg hpos.ne', hexponent]
    simp only [if_neg hpos.not_gt]
    rfl
  | negative hneg hexponent =>
    rw [if_neg hneg.ne, hexponent]
    simp only [if_pos hneg]
    rfl

/-! ## Order -/

/-- Digits, each raised by one, and the terminator. -/
def digitBytes (digits : List Nat) : Bytes :=
  digits.map (fun digit => UInt8.ofNat (digit + 1)) ++ [0]

theorem encodeMagnitude_eq (exponent : Int64) (digits : List Nat) :
    encodeMagnitude exponent digits =
      BigEndian.ofNat 8 (exponentWord exponent).toNat ++ digitBytes digits := by
  simp [encodeMagnitude, digitBytes]

theorem toNat_digitByte {digit : Nat} (h : digit < 10) :
    (UInt8.ofNat (digit + 1)).toNat = digit + 1 := by
  simp only [UInt8.toNat_ofNat']
  omega

/-- Digits compare as the bytes written for them. -/
theorem settled_digitByte {low high : Nat} (hlow : low < 10) (hhigh : high < 10) :
    Bytes.Settled (compare low high) [UInt8.ofNat (low + 1)] [UInt8.ofNat (high + 1)] := by
  rcases lt_trichotomy low high with h | h | h
  · rw [compare_lt_iff_lt.mpr h]
    apply Bytes.Below.here
    rw [UInt8.lt_iff_toNat_lt, toNat_digitByte hlow, toNat_digitByte hhigh]
    exact Nat.succ_lt_succ h
  · rw [h, compare_eq_iff_eq.mpr rfl]
    exact Bytes.Settled.refl _
  · rw [compare_gt_iff_gt.mpr h]
    apply Bytes.Below.here
    rw [UInt8.lt_iff_toNat_lt, toNat_digitByte hlow, toNat_digitByte hhigh]
    exact Nat.succ_lt_succ h

/-- The terminator is below the byte of any digit. -/
theorem below_nil_cons {digit : Nat} (h : digit < 10) (digits : List Nat) :
    Bytes.Below (digitBytes []) (digitBytes (digit :: digits)) := by
  apply Bytes.Below.here
  rw [UInt8.lt_iff_toNat_lt, toNat_digitByte h]
  exact Nat.succ_pos _

/-- Trimmed digits compare as the fractions they spell. -/
theorem settled_digitBytes {left right : List Nat} (hleft : Digits.Trimmed left)
    (hright : Digits.Trimmed right) :
    Bytes.Settled (compare (Digits.fraction left) (Digits.fraction right)) (digitBytes left)
      (digitBytes right) := by
  induction left generalizing right with
  | nil =>
    cases right with
    | nil =>
      rw [compare_eq_iff_eq.mpr rfl]
      exact Bytes.Settled.refl _
    | cons digit right =>
      have hpos : Digits.fraction [] < Digits.fraction (digit :: right) := Digits.fraction_pos hright
      rw [compare_lt_iff_lt.mpr hpos]
      exact below_nil_cons hright.1 right
  | cons low left ih =>
    cases right with
    | nil =>
      have hpos : Digits.fraction [] < Digits.fraction (low :: left) := Digits.fraction_pos hleft
      rw [compare_gt_iff_gt.mpr hpos]
      exact below_nil_cons hleft.1 left
    | cons high right =>
      rw [Digits.compare_fraction_cons hleft hright]
      exact (settled_digitByte hleft.1 hright.1).append (ih hleft.2.2 hright.2.2)

/-- The magnitudes of decimals compare as their exponents and digits. -/
theorem settled_magnitude {left right : Decimal} {low high : Int64} (hleft : left.unscaled ≠ 0)
    (hright : right.unscaled ≠ 0) :
    Bytes.Settled
      (compare (Digits.fraction left.digits * 10 ^ low.toInt)
        (Digits.fraction right.digits * 10 ^ high.toInt))
      (encodeMagnitude low left.digits) (encodeMagnitude high right.digits) := by
  rw [Decimal.compare_scaled _ _ (Decimal.fraction_digits hleft) (Decimal.fraction_digits hright),
    encodeMagnitude_eq, encodeMagnitude_eq]
  apply Bytes.Settled.append
  · exact SignedWord.settled_flip (by decide : 0 < 8) low.toBitVec high.toBitVec
  · exact settled_digitBytes (Digits.trimmed_significant _) (Digits.trimmed_significant _)

/-- Negating both numbers turns their comparison around. -/
theorem compare_neg (left right : ℚ) : compare (-left) (-right) = (compare left right).swap := by
  have hanti : StrictAnti (fun number : ℚ => -number) := by
    intro _ _ h
    exact neg_lt_neg h
  rw [← cmp_eq_compare, hanti.cmp_map_eq, ← cmp_eq_compare, cmp_swap]

theorem negativeMarker_lt_zeroMarker : negativeMarker < zeroMarker := by decide

theorem zeroMarker_lt_positiveMarker : zeroMarker < positiveMarker := by decide

theorem negativeMarker_lt_positiveMarker : negativeMarker < positiveMarker := by decide

/-- Decimals compare as their sortable forms. -/
theorem settled_encode {left right : Decimal} {leftForm rightForm : Bytes}
    (hleft : encode left = .ok leftForm) (hright : encode right = .ok rightForm) :
    Bytes.Settled (compare left.toRat right.toRat) leftForm rightForm := by
  -- Forms of different signs differ in the marker; those of one sign behind it.
  cases form_of_encode hleft with
  | zero hzero =>
    cases form_of_encode hright with
    | zero hzero' =>
      rw [Decimal.toRat_of_zero hzero, Decimal.toRat_of_zero hzero', compare_eq_iff_eq.mpr rfl]
      exact Bytes.Settled.refl _
    | positive hpos _ =>
      rw [Decimal.toRat_of_zero hzero, compare_lt_iff_lt.mpr (Decimal.toRat_pos hpos)]
      exact Bytes.Below.here _ _ zeroMarker_lt_positiveMarker
    | negative hneg _ =>
      rw [Decimal.toRat_of_zero hzero, compare_gt_iff_gt.mpr (Decimal.toRat_neg hneg)]
      exact Bytes.Below.here _ _ negativeMarker_lt_zeroMarker
  | positive hpos hexponent =>
    cases form_of_encode hright with
    | zero hzero' =>
      rw [Decimal.toRat_of_zero hzero', compare_gt_iff_gt.mpr (Decimal.toRat_pos hpos)]
      exact Bytes.Below.here _ _ zeroMarker_lt_positiveMarker
    | positive hpos' hexponent' =>
      rw [Decimal.toRat_of_pos hpos hexponent, Decimal.toRat_of_pos hpos' hexponent']
      exact Bytes.Settled.append_left [positiveMarker] (settled_magnitude hpos.ne' hpos'.ne')
    | negative hneg _ =>
      rw [compare_gt_iff_gt.mpr (lt_trans (Decimal.toRat_neg hneg) (Decimal.toRat_pos hpos))]
      exact Bytes.Below.here _ _ negativeMarker_lt_positiveMarker
  | negative hneg hexponent =>
    cases form_of_encode hright with
    | zero hzero' =>
      rw [Decimal.toRat_of_zero hzero', compare_lt_iff_lt.mpr (Decimal.toRat_neg hneg)]
      exact Bytes.Below.here _ _ negativeMarker_lt_zeroMarker
    | positive hpos' _ =>
      rw [compare_lt_iff_lt.mpr (lt_trans (Decimal.toRat_neg hneg) (Decimal.toRat_pos hpos'))]
      exact Bytes.Below.here _ _ negativeMarker_lt_positiveMarker
    | negative hneg' hexponent' =>
      rw [Decimal.toRat_of_neg hneg hexponent, Decimal.toRat_of_neg hneg' hexponent', compare_neg]
      exact Bytes.Settled.append_left [negativeMarker]
        (settled_magnitude hneg.ne hneg'.ne).complement

/-! ## Reading -/

/-- The reader finds the digits whose bytes are next, and stops behind the terminator. -/
theorem digitsFrom_digitBytes (mask : UInt8) {digits : List Nat} (hdigits : ∀ digit ∈ digits, digit < 10) :
    ∀ (position : Nat) (unread rest : Bytes), unread.map (· ^^^ mask) = digitBytes digits ++ rest →
      digitsFrom mask position unread =
        .ok digits ⟨position + (digitBytes digits).length, unread.drop (digitBytes digits).length,
          mask⟩ := by
  induction digits with
  | nil =>
    intro position unread rest hshown
    rcases List.map_eq_cons_iff.mp hshown with ⟨first, unread, rfl, hfirst, -⟩
    simp [digitsFrom, hfirst, digitBytes]
  | cons digit digits ih =>
    intro position unread rest hshown
    rcases List.map_eq_cons_iff.mp hshown with ⟨first, unread, rfl, hfirst, hshown⟩
    have hdigit : (UInt8.ofNat (digit + 1)).toNat = digit + 1 :=
      toNat_digitByte (hdigits digit (List.mem_cons_self))
    have hne : UInt8.ofNat (digit + 1) ≠ 0 := by
      intro hzero
      rw [hzero] at hdigit
      cases hdigit
    have hle : UInt8.ofNat (digit + 1) ≤ 10 := by
      rw [UInt8.le_iff_toNat_le, hdigit]
      exact hdigits digit List.mem_cons_self
    have htail := ih (fun next hnext => hdigits next (List.mem_cons_of_mem _ hnext)) (position + 1)
      unread rest hshown
    simp only [digitsFrom, hfirst, if_neg hne, if_pos hle, htail, prepend, hdigit]
    simp [digitBytes]
    omega

/-- The digits of a magnitude are read back with the exponent. -/
theorem yields_readMagnitude (exponent : Int64) {digits : List Nat} (h : ∀ digit ∈ digits, digit < 10) :
    Scan.Yields readMagnitude (encodeMagnitude exponent digits) (exponent, digits) := by
  have hword : (exponentWord exponent).toNat < 256 ^ 8 := (exponentWord exponent).isLt
  have hdigits : Scan.Yields readDigits (digitBytes digits) digits := by
    intro cursor rest hshown
    exact digitsFrom_digitBytes cursor.mask h cursor.position cursor.unread rest hshown
  rw [encodeMagnitude_eq]
  apply (Scan.yields_number "decimal exponent" hword).bind
  apply hdigits.bind_pure
  simp [exponentWord]

/-- Significant digits with an exponent make the normal pair again. -/
theorem assemble_digits {decimal : Decimal} {exponent : Int64} (hne : decimal.unscaled ≠ 0)
    (hexponent : decimal.exponent? = some exponent) :
    assemble (decide (decimal.unscaled < 0)) exponent decimal.digits = .ok decimal.reduced := by
  have hdigits : decimal.digits.isEmpty = false := by
    rw [List.isEmpty_eq_false_iff]
    exact Digits.significant_ne_nil (Int.natAbs_ne_zero.mpr hne)
  have hscale : (decimal.digits.length : Int) - exponent.toInt = decimal.reduced.scale.toInt := by
    rw [Decimal.exponent_eq hexponent, Decimal.scale_reduced hne hexponent]
    omega
  have hword : int64? decimal.reduced.scale.toInt = some decimal.reduced.scale := by
    have hlow := decimal.reduced.scale.le_toInt
    have hhigh := decimal.reduced.scale.toInt_lt
    rw [int64?, if_pos ⟨hlow, hhigh⟩, Int64.ofInt_toInt]
  simp only [assemble, hdigits, hscale, hword, Bool.false_eq_true, if_false]
  rcases lt_or_gt_of_ne hne with hneg | hpos
  · simp only [hneg, decide_true, if_true, ← Decimal.unscaled_reduced_of_neg hneg]
  · simp only [hpos.not_gt, decide_false, Bool.false_eq_true, if_false,
      ← Decimal.unscaled_reduced_of_pos hpos]

/-- A sortable form reads as the normal pair of its decimal. -/
theorem yields_read {decimal : Decimal} {bytes : Bytes} (h : encode decimal = .ok bytes) :
    Scan.Yields read bytes decimal.reduced := by
  have hdigits : ∀ digit ∈ decimal.digits, digit < 10 :=
    (Digits.trimmed_iff.mp (Digits.trimmed_significant _)).1
  cases form_of_encode h with
  | zero hzero =>
    rw [Decimal.reduced_of_zero hzero]
    apply (Scan.yields_byte "decimal marker" zeroMarker).bind_pure
    rfl
  | @positive exponent hpos hexponent =>
    have hassemble := assemble_digits hpos.ne' hexponent
    rw [decide_eq_false hpos.not_gt] at hassemble
    apply (Scan.yields_byte "decimal marker" positiveMarker).bind
    rw [if_neg (by decide), if_pos rfl]
    apply (yields_readMagnitude exponent hdigits).bind_pure
    simp only [hassemble]
    rfl
  | @negative exponent hneg hexponent =>
    have hassemble := assemble_digits hneg.ne hexponent
    rw [decide_eq_true hneg] at hassemble
    apply (Scan.yields_byte "decimal marker" negativeMarker).bind
    rw [if_neg (by decide), if_neg (by decide), if_pos rfl]
    apply (yields_readMagnitude exponent hdigits).complemented.bind_pure
    simp only [hassemble]
    rfl

/-! ## The normal pair -/

/-- The normal pair of a decimal has its form. -/
theorem encode_reduced {decimal : Decimal} {bytes : Bytes} (h : encode decimal = .ok bytes) :
    encode decimal.reduced = .ok bytes := by
  apply encode_of_form
  cases form_of_encode h with
  | zero hzero =>
    rw [Decimal.reduced_of_zero hzero]
    exact Form.zero rfl
  | positive hpos hexponent =>
    have hpos' : 0 < decimal.reduced.unscaled := by
      have hvalue := Decimal.value_digits_pos hpos.ne'
      rw [Decimal.unscaled_reduced_of_pos hpos]
      omega
    rw [← Decimal.digits_reduced hpos.ne']
    exact Form.positive hpos' (Decimal.exponent_reduced hpos.ne' hexponent)
  | negative hneg hexponent =>
    have hneg' : decimal.reduced.unscaled < 0 := by
      have hvalue := Decimal.value_digits_pos hneg.ne
      rw [Decimal.unscaled_reduced_of_neg hneg]
      omega
    rw [← Decimal.digits_reduced hneg.ne]
    exact Form.negative hneg' (Decimal.exponent_reduced hneg.ne hexponent)

/-- A decimal that can be written is equal to its normal pair. -/
theorem toRat_reduced {decimal : Decimal} {bytes : Bytes} (h : encode decimal = .ok bytes) :
    decimal.reduced.toRat = decimal.toRat := by
  cases form_of_encode h with
  | zero hzero => rw [Decimal.reduced_of_zero hzero, Decimal.toRat_of_zero hzero, Decimal.toRat_of_zero rfl]
  | positive hpos hexponent => exact Decimal.toRat_reduced hpos.ne' hexponent
  | negative hneg hexponent => exact Decimal.toRat_reduced hneg.ne hexponent

end RecordBytes.SortableDecimal
