import Mathlib
import RecordBytes.Compact.Cell
import RecordBytes.Proofs.Compact.LengthPrefix
import RecordBytes.Proofs.Fault.Outcome

/-!
# Sizes of compact cells

The length of a compact cell can be computed without writing it; where it does not depend on the value it is
known from the kind, and no cell is shorter than the least length of its kind.

Main results:

- `Compact.encode_eq_ok`: what is written for a value.
- `Compact.size_of_encode`: the computed length is the length of the written cell.
- `Compact.length_of_fixedSize`, `Compact.leastSize_le_length`: what is known of the length from the kind.
-/

namespace RecordBytes.Compact

open Outcome

/-! ## Contents -/

/-- A payload is written behind its length when the length can be written. -/
theorem withLength_eq_ok {payload form : Bytes} :
    withLength payload = .ok form ↔
      ∃ front, LengthPrefix.encode payload.length = .ok front ∧ front ++ payload = form := by
  simp only [withLength, bind_eq_ok, pure_eq_ok]

/-- A decimal is written as its unscaled integer behind its length, and its scale when that fits four
bytes. -/
theorem encodeDecimal_eq_ok {decimal : Decimal} {form : Bytes} :
    encodeDecimal decimal = .ok form ↔
      (-0x8000_0000 ≤ decimal.scale.toInt ∧ decimal.scale.toInt < 0x8000_0000) ∧
        ∃ front, LengthPrefix.encode (TwosComplement.ofInt decimal.unscaled).length = .ok front ∧
          front ++ (TwosComplement.ofInt decimal.unscaled ++
            BigEndian.ofNat 4 (BitVec.ofInt 32 decimal.scale.toInt).toNat) = form := by
  simp only [encodeDecimal, guard_eq_ok, bind_eq_ok, pure_eq_ok, withLength_eq_ok]
  constructor
  · intro h
    rcases h with ⟨hscale, _, ⟨front, hfront, rfl⟩, rfl⟩
    exact ⟨by omega, front, hfront, by rw [List.append_assoc]⟩
  · intro h
    rcases h with ⟨hscale, front, hfront, rfl⟩
    exact ⟨by omega, _, ⟨front, hfront, rfl⟩, by rw [List.append_assoc]⟩

/-- The computed length of bytes behind their length. -/
theorem sizeWithLength_eq_ok {length : Nat} {front : Bytes} (h : LengthPrefix.encode length = .ok front) :
    sizeWithLength length = .ok (front.length + length) := by
  simp [sizeWithLength, LengthPrefix.size_of_encode h, pure, Except.pure]

/-- The computed length of a content is the length of its form. -/
theorem contentSize_of_encode (kind : Kind) {content : kind.Content} {form : Bytes}
    (h : encodeContent kind content = .ok form) : contentSize kind content = .ok form.length := by
  cases kind with
  | text | bytes | bigint =>
    rcases withLength_eq_ok.mp h with ⟨front, hfront, rfl⟩
    have hsize := sizeWithLength_eq_ok hfront
    simpa [contentSize] using hsize
  | decimal =>
    rcases encodeDecimal_eq_ok.mp h with ⟨-, front, hfront, rfl⟩
    have hsize := sizeWithLength_eq_ok hfront
    rw [TwosComplement.length_ofInt] at hsize
    simp [contentSize, hsize, pure, Except.pure, Nat.add_assoc]
  | bool | char | signed | unsigned | float | lob =>
    rcases Except.ok.inj h with rfl
    simp [contentSize]

/-- A content of a kind of fixed width takes that width. -/
theorem length_of_width? {kind : Kind} {width : Nat} (hwidth : kind.width? = some width)
    {content : kind.Content} {form : Bytes} (h : encodeContent kind content = .ok form) :
    form.length = width := by
  cases kind with
  | bigint | decimal | text | bytes => cases hwidth
  | bool | char | signed | unsigned | float | lob =>
    rcases Except.ok.inj h with rfl
    rcases Option.some.inj hwidth with rfl
    simp

/-- No content that may not be missing is shorter than the least length of its kind. -/
theorem leastSize_le_form {kind : Kind} {content : kind.Content} {form : Bytes}
    (h : encodeContent kind content = .ok form) : leastSize kind false ≤ form.length := by
  cases kind with
  | text | bytes | bigint =>
    rcases withLength_eq_ok.mp h with ⟨front, hfront, rfl⟩
    have hpos := LengthPrefix.pos_of_size (LengthPrefix.size_of_encode hfront)
    simp [leastSize, Kind.width?]
    omega
  | decimal =>
    rcases encodeDecimal_eq_ok.mp h with ⟨-, front, hfront, rfl⟩
    have hpos := LengthPrefix.pos_of_size (LengthPrefix.size_of_encode hfront)
    simp [leastSize, Kind.width?]
    omega
  | bool | char | signed | unsigned | float | lob => exact le_of_eq (length_of_width? rfl h).symm

/-! ## Cells -/

/-- The cell of a value: the byte that stands for a missing one, or the form of a content behind the byte
that a nullable cell of fixed width has. -/
inductive Cell (kind : Kind) (nullable : Bool) : Value → Bytes → Prop
  | missing (hnullable : nullable = true) :
      Cell kind nullable .null [if kind.width?.isSome then absent else LengthPrefix.nullSentinel]
  | present {content : kind.Content} {form : Bytes} (hform : encodeContent kind content = .ok form) :
      Cell kind nullable (.of kind content)
        ((if nullable && kind.width?.isSome then [Compact.present] else []) ++ form)

/-- What is written for a value is its cell, and a cell is what is written. -/
theorem encode_eq_ok {kind : Kind} {nullable : Bool} {value : Value} {bytes : Bytes} :
    encode kind nullable value = .ok bytes ↔ Cell kind nullable value bytes := by
  constructor
  · intro h
    cases value with
    | null =>
      cases nullable with
      | false => simp [encode] at h
      | true =>
        rcases Except.ok.inj h with rfl
        exact Cell.missing rfl
    | of actual content =>
      by_cases hkind : actual = kind
      · subst hkind
        simp only [encode, Value.content?_of, bind_eq_ok, pure_eq_ok] at h
        rcases h with ⟨form, hform, rfl⟩
        exact Cell.present hform
      · simp [encode, Value.content?, hkind] at h
  · intro h
    cases h with
    | missing hnullable => simp [encode, hnullable]
    | present hform => simp [encode, hform, pure, Except.pure]

/-- The computed length of a value is the length of its written cell. -/
theorem size_of_encode {kind : Kind} {nullable : Bool} {value : Value} {cell : Bytes}
    (h : encode kind nullable value = .ok cell) : size kind nullable value = .ok cell.length := by
  cases encode_eq_ok.mp h with
  | missing hnullable => simp [size, hnullable]
  | present hform =>
    simp only [size, Value.content?_of, contentSize_of_encode kind hform, ok_bind]
    split <;> simp [pure, Except.pure, Nat.add_comm]

/-- Where the length of the cells of a kind is fixed, every cell has it. -/
theorem length_of_fixedSize {kind : Kind} {nullable : Bool} {value : Value} {cell : Bytes}
    (h : encode kind nullable value = .ok cell) {size : Nat} (hsize : fixedSize kind nullable = some size) :
    cell.length = size := by
  unfold fixedSize at hsize
  cases encode_eq_ok.mp h with
  | missing hnullable => simp [hnullable] at hsize
  | present hform =>
    cases nullable with
    | true => simp at hsize
    | false => exact length_of_width? hsize hform

/-- No cell is shorter than the least length of its kind. -/
theorem leastSize_le_length {kind : Kind} {nullable : Bool} {value : Value} {cell : Bytes}
    (h : encode kind nullable value = .ok cell) : leastSize kind nullable ≤ cell.length := by
  cases encode_eq_ok.mp h with
  | missing hnullable => simp [leastSize, hnullable]
  | @present content form hform =>
    cases nullable with
    | false => exact leastSize_le_form hform
    | true =>
      -- One byte in front where the width is fixed, and the first byte of the length where it is not.
      cases hwidth : kind.width? with
      | some width => simp [leastSize]
      | none =>
        have hleast := leastSize_le_form hform
        simp only [leastSize, hwidth, Bool.false_eq_true, if_false] at hleast
        simp only [leastSize, Option.isSome_none, Bool.and_false, Bool.false_eq_true, if_false, if_true,
          List.nil_append]
        split at hleast <;> omega

end RecordBytes.Compact
