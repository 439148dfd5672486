import Mathlib
import RecordBytes.Proofs.Sortable.Order

/-!
# Sizes of sortable cells

The length of a cell can be computed without writing it; where it does not depend on the value it is known
from the kind, and no cell is shorter than the least length of its kind.

Main results:

- `Sortable.size_of_encode`: the computed length is the length of the written cell.
- `Sortable.length_of_fixedSize`, `Sortable.leastSize_le_length`: what is known of the length from the kind.
-/

namespace RecordBytes.Sortable

open Outcome

/-! ## Contents -/

theorem length_decimal {decimal : Decimal} {bytes : Bytes}
    (h : SortableDecimal.Form decimal bytes) : SortableDecimal.size decimal = .ok bytes.length := by
  unfold SortableDecimal.size
  cases h with
  | zero hzero => simp [hzero]
  | positive hpos hexponent =>
    simp [hpos.ne', hexponent, SortableDecimal.encodeMagnitude, Decimal.digits]
    omega
  | negative hneg hexponent =>
    simp [hneg.ne, hexponent, SortableDecimal.encodeMagnitude, Decimal.digits]
    omega

/-- The computed length of a content is the length of its form. -/
theorem contentSize_of_encode (kind : Kind) {content : kind.Content} {form : Bytes}
    (h : encodeContent kind content = .ok form) : contentSize kind content = .ok form.length := by
  cases kind with
  | bigint =>
    rcases Bigint.encode_eq_ok.mp h with ⟨-, rfl⟩
    simp [contentSize, Bigint.form]
  | decimal => exact length_decimal (SortableDecimal.form_of_encode h)
  | bool | char | signed | unsigned | float | text | bytes | lob =>
    rcases Except.ok.inj h with rfl
    simp [contentSize]

/-- A content of a kind of fixed width takes that width. -/
theorem length_of_width? {kind : Kind} {width : Nat} (hwidth : kind.width? = some width)
    {content : kind.Content} {form : Bytes} (h : encodeContent kind content = .ok form) :
    form.length = width := by
  cases kind with
  | bigint | decimal | text | bytes => cases hwidth
  | bool | char | signed | unsigned | float | lob =>
    rcases Except.ok.inj h with rfl
    rcases Option.some.inj hwidth with rfl
    simp

/-- The least length of a content without a fixed width. -/
theorem leastSize_le_form {kind : Kind} {content : kind.Content} {form : Bytes}
    (h : encodeContent kind content = .ok form) : leastSize kind false ≤ form.length := by
  cases kind with
  | bigint =>
    rcases Bigint.encode_eq_ok.mp h with ⟨-, rfl⟩
    simp [leastSize, Kind.width?, Bigint.form]
  | decimal =>
    cases SortableDecimal.form_of_encode h <;> simp [leastSize, Kind.width?]
  | text | bytes =>
    rcases Except.ok.inj h with rfl
    simp [leastSize, Kind.width?, Escaped.size]
  | bool | char | signed | unsigned | float | lob =>
    exact le_of_eq (length_of_width? rfl h).symm

/-! ## Cells -/

/-- The computed length of a value is the length of its cell. -/
theorem Cell.size {kind : Kind} {nullable : Bool} {value : Value} {cell : Bytes}
    (h : Cell kind nullable value cell) : Sortable.size kind nullable value = .ok cell.length := by
  cases h with
  | missing hnullable => simp [Sortable.size, hnullable]
  | present hform =>
    simp only [Sortable.size, Value.content?_of, contentSize_of_encode kind hform, ok_bind]
    cases nullable <;> simp [pure, Except.pure, Nat.add_comm]

/-- Where the length of the cells of a kind is fixed, every cell has it. -/
theorem Cell.length_of_fixedSize {kind : Kind} {nullable : Bool} {value : Value} {cell : Bytes}
    (h : Cell kind nullable value cell) {size : Nat} (hsize : fixedSize kind nullable = some size) :
    cell.length = size := by
  unfold fixedSize at hsize
  cases h with
  | missing hnullable => simp [hnullable] at hsize
  | present hform =>
    cases nullable with
    | true => simp at hsize
    | false => exact length_of_width? hsize hform

/-- No cell is shorter than the least length of its kind. -/
theorem Cell.leastSize_le {kind : Kind} {nullable : Bool} {value : Value} {cell : Bytes}
    (h : Cell kind nullable value cell) : leastSize kind nullable ≤ cell.length := by
  cases h with
  | missing hnullable => simp [leastSize, hnullable]
  | present hform =>
    cases nullable with
    | true => simp [leastSize]
    | false => exact leastSize_le_form hform

/-- The computed length of a value is the length of its written cell. -/
theorem size_of_encode {kind : Kind} {nullable : Bool} {order : SortOrder} {value : Value} {bytes : Bytes}
    (h : encode kind nullable order value = .ok bytes) :
    Sortable.size kind nullable value = .ok bytes.length := by
  rcases encode_eq_ok.mp h with ⟨cell, hcell, rfl⟩
  rw [SortOrder.length_apply]
  exact hcell.size

theorem length_of_fixedSize {kind : Kind} {nullable : Bool} {order : SortOrder} {value : Value}
    {bytes : Bytes} (h : encode kind nullable order value = .ok bytes) {size : Nat}
    (hsize : fixedSize kind nullable = some size) : bytes.length = size := by
  rcases encode_eq_ok.mp h with ⟨cell, hcell, rfl⟩
  rw [SortOrder.length_apply]
  exact hcell.length_of_fixedSize hsize

theorem leastSize_le_length {kind : Kind} {nullable : Bool} {order : SortOrder} {value : Value}
    {bytes : Bytes} (h : encode kind nullable order value = .ok bytes) :
    leastSize kind nullable ≤ bytes.length := by
  rcases encode_eq_ok.mp h with ⟨cell, hcell, rfl⟩
  rw [SortOrder.length_apply]
  exact hcell.leastSize_le

end RecordBytes.Sortable
