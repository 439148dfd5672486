import Mathlib
import RecordBytes.Proofs.Cursor.Finds
import RecordBytes.Proofs.Sortable.Reading
import RecordBytes.Proofs.Sortable.Scanning

/-!
# What sortable cells can hold

Every content has a sortable form, but for an integer whose length no header can tell and a decimal whose
exponent does not fit 64 bits.  The reader accepts forms that no writer makes: integers with needless leading
bytes or none at all, and digit strings with zeros at either end.  What it finds in them has a form of its own
nevertheless.

Main results:

- `Sortable.exists_form_iff`: the contents that have a sortable form.
- `Sortable.finds_read`: whatever bytes are read, the value that is found has a cell.
-/

namespace RecordBytes

open Outcome

/-! ## Digits -/

/-- Digits spell a number of no more digits. -/
theorem Digits.count_value_le {digits : List Nat} (h : ∀ digit ∈ digits, digit < 10) :
    count (value digits) ≤ digits.length := by
  have hreverse : ∀ digit ∈ digits.reverse, digit < 10 := by simpa using h
  have hlt := Nat.ofDigits_lt_base_pow_length (by decide) hreverse
  rw [List.length_reverse] at hlt
  rw [count, lowFirst_eq_digits, Nat.digits_length_le_iff (by decide), value_eq_ofDigits]
  exact hlt

theorem Digits.count_pos {number : Nat} (h : number ≠ 0) : 0 < count number := by
  rw [count, lowFirst_eq_digits]
  exact List.length_pos_of_ne_nil (Nat.digits_ne_nil_iff_ne_zero.mpr h)

/-- An integer is a 64-bit number when it is in range. -/
theorem int64?_isSome_iff {number : Int} :
    (∃ word, int64? number = some word) ↔
      -0x8000_0000_0000_0000 ≤ number ∧ number < 0x8000_0000_0000_0000 := by
  unfold int64?
  split
  · next h => simp [h]
  · next h => simp [h]

/-! ## Integers of any size -/

namespace Bigint

/-- A header tells no more bytes than the longest form has. -/
theorem finds_readHeader : Finds (fun found => found.2 ≤ maxSize) readHeader := by
  refine Finds.bind (Scan.finds_number 4 _) ?_
  intro header hlt
  apply Finds.pure
  have hmax : maxSize = 0x7FFF_FFFF := rfl
  split
  · show header - 0x8000_0000 ≤ maxSize
    omega
  · show maxSize - header ≤ maxSize
    omega

/-- What is read takes no more bytes than the longest form has. -/
theorem finds_read : Finds (fun number => TwosComplement.size number ≤ maxSize) read := by
  refine Finds.bind finds_readHeader ?_
  rintro ⟨negative, size⟩ hsize
  refine Finds.bind (Scan.finds_take size _) ?_
  intro bytes hlength
  have hleast := TwosComplement.size_toInt_le bytes
  have hmax : maxSize = 0x7FFF_FFFF := rfl
  dsimp only at hsize ⊢
  have hfits : TwosComplement.size (TwosComplement.toInt bytes) ≤ maxSize := by omega
  split
  · exact Finds.bind (Finds.of_forall fun _ => trivial) fun _ _ => Finds.pure hfits
  · exact Finds.pure hfits

end Bigint

/-! ## Decimals -/

namespace SortableDecimal

/-- A decimal has a sortable form when it is zero or its exponent fits 64 bits. -/
theorem exists_form_iff {decimal : Decimal} :
    (∃ form, encode decimal = .ok form) ↔
      (decimal.unscaled ≠ 0 → ∃ exponent, decimal.exponent? = some exponent) := by
  constructor
  · rintro ⟨form, hform⟩ hne
    cases form_of_encode hform with
    | zero hzero => exact absurd hzero hne
    | positive _ hexponent => exact ⟨_, hexponent⟩
    | negative _ hexponent => exact ⟨_, hexponent⟩
  · intro hexponent
    rcases lt_trichotomy decimal.unscaled 0 with hneg | hzero | hpos
    · rcases hexponent hneg.ne with ⟨exponent, hexponent⟩
      exact ⟨_, encode_of_form (Form.negative hneg hexponent)⟩
    · exact ⟨_, encode_of_form (Form.zero hzero)⟩
    · rcases hexponent hpos.ne' with ⟨exponent, hexponent⟩
      exact ⟨_, encode_of_form (Form.positive hpos hexponent)⟩

theorem digits_lt_of_digitsFrom {mask : UInt8} {position : Nat} {unread : Bytes} {digits : List Nat}
    {after : Cursor} (h : digitsFrom mask position unread = .ok digits after) :
    ∀ digit ∈ digits, digit < 10 := by
  induction unread generalizing position digits with
  | nil => cases h
  | cons masked rest ih =>
    simp only [digitsFrom] at h
    split at h
    · cases h
      simp
    · next hend =>
      split at h
      · next hdigit =>
        rcases prepend_eq_ok.mp h with ⟨others, hothers, rfl⟩
        have hle := UInt8.le_iff_toNat_le.mp hdigit
        have hten : UInt8.toNat 10 = 10 := rfl
        rw [hten] at hle
        refine List.forall_mem_cons.mpr ⟨?_, ih hothers⟩
        omega
      · cases h

theorem finds_readMagnitude :
    Finds (fun found => ∀ digit ∈ found.2, digit < 10) readMagnitude := by
  refine Finds.bind (Finds.of_forall fun _ => trivial) ?_
  intro word _
  have hdigits : Finds (fun digits => ∀ digit ∈ digits, digit < 10) readDigits := by
    intro cursor after digits h
    exact digits_lt_of_digitsFrom h
  refine Finds.bind hdigits ?_
  intro digits hlt
  exact Finds.pure hlt

/-- Digits with an exponent make a decimal with a form: zeros in front only move the exponent closer to the
one that was read, and the scale is where zeros at the end count. -/
theorem exists_form_of_assemble {negative : Bool} {exponent : Int64} {digits : List Nat} {decimal : Decimal}
    (hdigits : ∀ digit ∈ digits, digit < 10) (h : assemble negative exponent digits = .ok decimal) :
    ∃ form, encode decimal = .ok form := by
  rw [exists_form_iff]
  intro hne
  unfold assemble at h
  split at h
  · cases h
  cases hscale : int64? (digits.length - exponent.toInt) with
  | none => simp [hscale] at h
  | some scale =>
    rw [hscale] at h
    rcases Except.ok.inj h with rfl
    have hmagnitude : (if negative then -(Digits.value digits : Int) else Digits.value digits).natAbs =
        Digits.value digits := by
      split <;> simp
    have hvalue : Digits.value digits ≠ 0 := by
      rw [← hmagnitude]
      exact Int.natAbs_ne_zero.mpr hne
    have hscaleInt : scale.toInt = digits.length - exponent.toInt := int64?_eq_some hscale
    have hrange := int64?_isSome_iff.mp ⟨scale, hscale⟩
    have hhigh := exponent.toInt_lt
    have hcount := Digits.count_value_le hdigits
    have hpos := Digits.count_pos hvalue
    rw [Decimal.exponent?, int64?_isSome_iff]
    simp only [hmagnitude, hscaleInt]
    omega

/-- What is read has a form of its own. -/
theorem finds_read : Finds (fun decimal => ∃ form, encode decimal = .ok form) read := by
  refine Finds.bind (Finds.of_forall fun _ => trivial) ?_
  intro marker _
  split
  · exact Finds.pure ⟨_, rfl⟩
  split
  · refine Finds.bind finds_readMagnitude ?_
    rintro ⟨exponent, digits⟩ hdigits
    exact Scan.finds_ofExcept fun decimal h => exists_form_of_assemble hdigits h
  split
  · refine Finds.bind finds_readMagnitude.complemented ?_
    rintro ⟨exponent, digits⟩ hdigits
    exact Scan.finds_ofExcept fun decimal h => exists_form_of_assemble hdigits h
  · exact Finds.throw _

end SortableDecimal

namespace Sortable

/-! ## Contents -/

/-- A content that has a sortable form. -/
def Writable : (kind : Kind) → kind.Content → Prop
  | .bigint, number => TwosComplement.size number ≤ Bigint.maxSize
  | .decimal, decimal => decimal.unscaled ≠ 0 → ∃ exponent, decimal.exponent? = some exponent
  | .bool, _ | .char, _ | .signed _, _ | .unsigned _, _ | .float _, _ | .text, _ | .bytes, _ | .lob, _ => True

/-- The contents that have a sortable form. -/
theorem exists_form_iff (kind : Kind) {content : kind.Content} :
    (∃ form, encodeContent kind content = .ok form) ↔ Writable kind content := by
  cases kind with
  | bigint =>
    constructor
    · rintro ⟨form, hform⟩
      exact (Bigint.encode_eq_ok.mp hform).1
    · intro hsize
      exact ⟨_, Bigint.encode_eq_ok.mpr ⟨hsize, rfl⟩⟩
  | decimal => exact SortableDecimal.exists_form_iff
  | bool | char | signed | unsigned | float | text | bytes | lob =>
    exact ⟨fun _ => trivial, fun _ => ⟨_, rfl⟩⟩

/-- What is read of a content has a form of its own. -/
theorem finds_readContent (kind : Kind) : Finds (Writable kind) (readContent kind) := by
  cases kind with
  | bigint => exact Bigint.finds_read
  | decimal => exact SortableDecimal.finds_read.imp fun _ => SortableDecimal.exists_form_iff.mp
  | bool | char | signed | unsigned | float | text | bytes | lob => exact Finds.of_forall fun _ => trivial

/-! ## Cells -/

theorem finds_readPresence (nullable : Bool) :
    Finds (fun isPresent => isPresent = false → nullable = true) (readPresence nullable) := by
  unfold readPresence
  cases nullable with
  | true => exact Finds.of_forall fun _ _ => rfl
  | false => exact Finds.pure fun h => h.symm

/-- Whatever bytes are read, the value that is found has a cell. -/
theorem finds_read (kind : Kind) (nullable : Bool) :
    Finds (fun value => ∃ cell, Cell kind nullable value cell) (read kind nullable) := by
  refine Finds.bind (finds_readPresence nullable) ?_
  intro isPresent hmissing
  cases isPresent with
  | true =>
    refine Finds.bind (finds_readContent kind) ?_
    intro content hwritable
    rcases (exists_form_iff kind).mpr hwritable with ⟨form, hform⟩
    exact Finds.pure ⟨_, Cell.present hform⟩
  | false => exact Finds.pure ⟨_, Cell.missing (hmissing rfl)⟩

end Sortable
end RecordBytes
