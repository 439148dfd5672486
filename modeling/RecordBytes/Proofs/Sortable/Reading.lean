import Mathlib
import RecordBytes.Proofs.Cursor.Yields
import RecordBytes.Proofs.Sortable.Order

/-!
# Reading sortable cells

A sortable cell is read back as the value it was written for, but for what the sortable form does not tell
apart: every NaN is read as the canonical one, and a decimal as its normal pair.  What is read has the same
cell again.

Main results:

- `Sortable.yields_read`: a cell is read back, whatever is written behind it.
- `Sortable.encode_restored`: what is read back has the same cell.
- `Sortable.restores`: what is read back is the value, up to NaNs and equal decimals.
-/

namespace RecordBytes

open Outcome

/-! ## What the sortable form keeps -/

/-- The content that is read back from the sortable form of a content. -/
def Kind.restored : (kind : Kind) → kind.Content → kind.Content
  | .float _, content => Floating.canonical content
  | .decimal, content => content.reduced
  | .bool, content => content
  | .char, content => content
  | .signed _, content => content
  | .unsigned _, content => content
  | .text, content => content
  | .bytes, content => content
  | .bigint, content => content
  | .lob, content => content

/-- The value that is read back from the sortable cell of a value. -/
def Value.restored : Value → Value
  | .null => .null
  | .of kind content => .of kind (kind.restored content)

/-- A value that stands for another one: any NaN may become the canonical one and a decimal an equal one,
and everything else is the same. -/
inductive Value.Restores : Value → Value → Prop
  | missing : Restores .null .null
  | float {precision : Precision} (bits : precision.Bits) :
      Restores (.of (.float precision) bits) (.of (.float precision) (Floating.canonical bits))
  | decimal {given found : Decimal} (hequal : found.toRat = given.toRat) :
      Restores (.of .decimal given) (.of .decimal found)
  | same {kind : Kind} (content : kind.Content) (hfloat : ∀ precision, kind ≠ .float precision)
      (hdecimal : kind ≠ .decimal) : Restores (.of kind content) (.of kind content)

namespace Sortable

/-! ## Contents -/

theorem charOfNat_toNat (char : Char) : char.toNat.isValidChar ∧ Char.ofNat char.toNat = char :=
  ⟨char.valid, Char.ofNat_toNat char⟩

/-- The sortable form of a content is read back. -/
theorem yields_readContent (kind : Kind) {content : kind.Content} {form : Bytes}
    (h : encodeContent kind content = .ok form) :
    Scan.Yields (readContent kind) form (kind.restored content) := by
  cases kind with
  | bool =>
    rcases Except.ok.inj h with rfl
    apply (Scan.yields_byte Kind.bool.name _).bind_pure
    cases content <;> rfl
  | char =>
    rcases Except.ok.inj h with rfl
    rcases charOfNat_toNat content with ⟨hvalid, hchar⟩
    apply (Scan.yields_number Kind.char.name (char_lt content)).bind_pure
    rw [if_pos hvalid, hchar]
    rfl
  | signed width =>
    rcases Except.ok.inj h with rfl
    apply (Scan.yields_number (Kind.signed width).name (BigEndian.toNat_lt_pow _)).bind_pure
    rw [BitVec.ofNat_toNat, BitVec.setWidth_eq, SignedWord.flip_flip]
    rfl
  | unsigned width =>
    rcases Except.ok.inj h with rfl
    apply (Scan.yields_number (Kind.unsigned width).name (BigEndian.toNat_lt_pow _)).bind_pure
    simp [Kind.restored]
  | float precision =>
    rcases Except.ok.inj h with rfl
    apply (Scan.yields_number (Kind.float precision).name (BigEndian.toNat_lt_pow _)).bind_pure
    simp [Kind.restored, Floating.ofSortable_sortable]
  | text =>
    rcases Except.ok.inj h with rfl
    apply (Escaped.yields_read _).bind_pure
    rw [Utf8.decode_encode]
    rfl
  | bytes =>
    rcases Except.ok.inj h with rfl
    exact Escaped.yields_read content
  | bigint => exact Bigint.yields_read h
  | decimal => exact SortableDecimal.yields_read h
  | lob =>
    rcases Except.ok.inj h with rfl
    have hlt : content.toNat < 256 ^ 8 := content.isLt
    apply (Scan.yields_number Kind.lob.name hlt).bind_pure
    simp [Kind.restored]

/-- What is read back has the same sortable form. -/
theorem encodeContent_restored (kind : Kind) {content : kind.Content} {form : Bytes}
    (h : encodeContent kind content = .ok form) :
    encodeContent kind (kind.restored content) = .ok form := by
  cases kind with
  | float precision =>
    rw [← h]
    simp [encodeContent, Kind.restored, Floating.sortable]
  | decimal => exact SortableDecimal.encode_reduced h
  | bool | char | signed | unsigned | text | bytes | bigint | lob => exact h

/-! ## Cells -/

/-- A cell is read back, whatever is written behind it. -/
theorem Cell.yields_read {kind : Kind} {nullable : Bool} {value : Value} {cell : Bytes}
    (h : Cell kind nullable value cell) : Scan.Yields (read kind nullable) cell value.restored := by
  cases h with
  | missing hnullable =>
    subst hnullable
    have hmarker : Scan.Yields (readPresence true) [nullMarker] false := by
      apply (Scan.yields_byte "null marker" nullMarker).bind_pure
      rfl
    exact hmarker.bind_pure rfl
  | @present content form hform =>
    have hpresence :
        Scan.Yields (readPresence nullable) (if nullable then [presentMarker] else []) true := by
      cases nullable with
      | false => exact Scan.Yields.pure true
      | true =>
        apply (Scan.yields_byte "null marker" presentMarker).bind_pure
        rfl
    apply hpresence.bind
    exact (yields_readContent kind hform).bind_pure rfl

/-- What is read back from a cell has the same cell. -/
theorem Cell.restored {kind : Kind} {nullable : Bool} {value : Value} {cell : Bytes}
    (h : Cell kind nullable value cell) : Cell kind nullable value.restored cell := by
  cases h with
  | missing hnullable => exact Cell.missing hnullable
  | present hform => exact Cell.present (encodeContent_restored kind hform)

/-- What is read back from a cell is the value, up to NaNs and equal decimals. -/
theorem Cell.restores {kind : Kind} {nullable : Bool} {value : Value} {cell : Bytes}
    (h : Cell kind nullable value cell) : Value.Restores value value.restored := by
  cases h with
  | missing _ => exact Value.Restores.missing
  | @present content form hform =>
    cases kind with
    | float precision => exact Value.Restores.float content
    | decimal => exact Value.Restores.decimal (SortableDecimal.toRat_reduced hform)
    | bool | char | signed | unsigned | text | bytes | bigint | lob =>
      exact Value.Restores.same content (by simp) (by simp)

/-- What is read back from a written cell has the same written cell. -/
theorem encode_restored {kind : Kind} {nullable : Bool} {order : SortOrder} {value : Value} {bytes : Bytes}
    (h : encode kind nullable order value = .ok bytes) :
    encode kind nullable order value.restored = .ok bytes := by
  rcases encode_eq_ok.mp h with ⟨cell, hcell, rfl⟩
  exact encode_eq_ok.mpr ⟨cell, hcell.restored, rfl⟩

/-- What is read back from a written cell is the value, up to NaNs and equal decimals. -/
theorem restores {kind : Kind} {nullable : Bool} {order : SortOrder} {value : Value} {bytes : Bytes}
    (h : encode kind nullable order value = .ok bytes) : Value.Restores value value.restored := by
  rcases encode_eq_ok.mp h with ⟨cell, hcell, rfl⟩
  exact hcell.restores

/-- Under the mask of its order, a written cell shows as the cell before the order was applied. -/
theorem map_mask_apply (order : SortOrder) (cell : Bytes) :
    (order.apply cell).map (· ^^^ order.mask) = cell := by
  unfold SortOrder.apply SortOrder.mask
  cases order.isDescending with
  | true => simp [Bytes.complement, Function.comp_def, Bytes.xor_full]
  | false => simp

/-- A written cell is read back under the mask of its order. -/
theorem read_encode {kind : Kind} {nullable : Bool} {order : SortOrder} {value : Value} {bytes : Bytes}
    (h : encode kind nullable order value = .ok bytes) (position : Nat) (rest : Bytes) :
    read kind nullable ⟨position, bytes ++ rest, order.mask⟩ =
      .ok value.restored ⟨position + bytes.length, rest, order.mask⟩ := by
  rcases encode_eq_ok.mp h with ⟨cell, hcell, rfl⟩
  have hshown : (⟨position, order.apply cell ++ rest, order.mask⟩ : Cursor).shown =
      cell ++ rest.map (· ^^^ order.mask) := by
    rw [Cursor.shown, List.map_append, map_mask_apply]
  have hlength : (order.apply cell).length = cell.length := order.length_apply cell
  rw [hcell.yields_read _ _ hshown, hlength, Cursor.advance, ← hlength, List.drop_left]

end Sortable
end RecordBytes
