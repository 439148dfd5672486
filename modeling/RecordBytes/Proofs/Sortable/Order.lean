import Mathlib
import RecordBytes.Proofs.Fault.Outcome
import RecordBytes.Proofs.Sortable.Bigint
import RecordBytes.Proofs.Sortable.Decimal
import RecordBytes.Proofs.Sortable.Escaped
import RecordBytes.Proofs.Value.Order
import RecordBytes.Sortable.Cell

/-!
# The order of sortable cells

The sortable cells of two values of one kind compare as the values do, in the order of the field, and the
comparison is settled inside the cells: no cell is the front of another one, so what is written behind them
never counts while they differ.

Main results:

- `Sortable.settled_encodeContent`: contents compare as their sortable forms.
- `Sortable.settled_encode`: values compare as their cells, turned around for a descending field.
-/

namespace RecordBytes.Sortable

open Outcome

/-! ## Contents -/

theorem bytes_pos (width : Width) : 0 < width.bytes := by
  cases width <;> decide

theorem char_lt (char : Char) : char.toNat < 256 ^ 4 :=
  char.val.toNat_lt

/-- Contents of one kind compare as their sortable forms. -/
theorem settled_encodeContent (kind : Kind) {left right : kind.Content} {leftForm rightForm : Bytes}
    (hleft : encodeContent kind left = .ok leftForm)
    (hright : encodeContent kind right = .ok rightForm) :
    Bytes.Settled (kind.compare left right) leftForm rightForm := by
  cases kind with
  | bool =>
    rcases Except.ok.inj hleft with rfl
    rcases Except.ok.inj hright with rfl
    cases left <;> cases right
    · exact Bytes.Settled.refl _
    · exact Bytes.Below.here _ _ (by decide)
    · exact Bytes.Below.here _ _ (by decide)
    · exact Bytes.Settled.refl _
  | char =>
    rcases Except.ok.inj hleft with rfl
    rcases Except.ok.inj hright with rfl
    exact BigEndian.settled_ofNat (char_lt left) (char_lt right)
  | signed width =>
    rcases Except.ok.inj hleft with rfl
    rcases Except.ok.inj hright with rfl
    exact SignedWord.settled_flip (bytes_pos width) left right
  | unsigned width =>
    rcases Except.ok.inj hleft with rfl
    rcases Except.ok.inj hright with rfl
    exact BigEndian.settled_ofNat (BigEndian.toNat_lt_pow left) (BigEndian.toNat_lt_pow right)
  | float precision =>
    rcases Except.ok.inj hleft with rfl
    rcases Except.ok.inj hright with rfl
    have hcompare := Floating.compare_eq_sortable left right
    rw [Kind.compare, hcompare]
    exact BigEndian.settled_ofNat (BigEndian.toNat_lt_pow _) (BigEndian.toNat_lt_pow _)
  | text =>
    rcases Except.ok.inj hleft with rfl
    rcases Except.ok.inj hright with rfl
    exact Escaped.settled_encode _ _
  | bytes =>
    rcases Except.ok.inj hleft with rfl
    rcases Except.ok.inj hright with rfl
    exact Escaped.settled_encode _ _
  | bigint => exact Bigint.settled_encode hleft hright
  | decimal => exact SortableDecimal.settled_encode hleft hright
  | lob =>
    rcases Except.ok.inj hleft with rfl
    rcases Except.ok.inj hright with rfl
    have hlt : ∀ number : BitVec 64, number.toNat < 256 ^ 8 := fun number => number.isLt
    exact BigEndian.settled_ofNat (hlt left) (hlt right)

/-! ## Cells -/

/-- The cell of a value, before its order is applied: a marker alone, or the form of a content behind the
marker that a nullable cell has. -/
inductive Cell (kind : Kind) (nullable : Bool) : Value → Bytes → Prop
  | missing (hnullable : nullable = true) : Cell kind nullable .null [nullMarker]
  | present {content : kind.Content} {form : Bytes} (hform : encodeContent kind content = .ok form) :
      Cell kind nullable (.of kind content) ((if nullable then [presentMarker] else []) ++ form)

/-- What is written for a value is its cell, and a cell is what is written. -/
theorem encodeUpward_eq_ok {kind : Kind} {nullable : Bool} {value : Value} {bytes : Bytes} :
    encodeUpward kind nullable value = .ok bytes ↔ Cell kind nullable value bytes := by
  constructor
  · intro h
    cases value with
    | null =>
      cases nullable with
      | false => simp [encodeUpward] at h
      | true =>
        rcases Except.ok.inj h with rfl
        exact Cell.missing rfl
    | of actual content =>
      by_cases hkind : actual = kind
      · subst hkind
        simp only [encodeUpward, Value.content?_of, bind_eq_ok, pure_eq_ok] at h
        rcases h with ⟨form, hform, rfl⟩
        exact Cell.present hform
      · simp [encodeUpward, Value.content?, hkind] at h
  · intro h
    cases h with
    | missing hnullable => simp [encodeUpward, hnullable]
    | present hform => simp [encodeUpward, hform, pure, Except.pure]

/-- What is written for a value in some order is its cell with the order applied. -/
theorem encode_eq_ok {kind : Kind} {nullable : Bool} {order : SortOrder} {value : Value} {bytes : Bytes} :
    encode kind nullable order value = .ok bytes ↔
      ∃ cell, Cell kind nullable value cell ∧ order.apply cell = bytes := by
  unfold encode
  simp only [map_eq_ok, encodeUpward_eq_ok]

theorem nullMarker_lt_presentMarker : nullMarker < presentMarker := by decide

/-- Values of one kind compare as their cells. -/
theorem Cell.settled {kind : Kind} {nullable : Bool} {left right : Value} {leftCell rightCell : Bytes}
    (hleft : Cell kind nullable left leftCell) (hright : Cell kind nullable right rightCell) :
    Bytes.Settled (Value.compare kind left right) leftCell rightCell := by
  cases hleft with
  | missing hnullable =>
    cases hright with
    | missing _ => exact Bytes.Settled.refl _
    | present _ =>
      rw [Value.compare_null_of, if_pos hnullable]
      exact Bytes.Below.here _ _ nullMarker_lt_presentMarker
  | present hform =>
    cases hright with
    | missing hnullable =>
      rw [Value.compare_of_null, if_pos hnullable]
      exact Bytes.Below.here _ _ nullMarker_lt_presentMarker
    | present hform' =>
      rw [Value.compare_of_of]
      exact Bytes.Settled.append_left _ (settled_encodeContent kind hform hform')

/-- Values of one kind compare as their written cells, turned around for a descending order. -/
theorem settled_encode {kind : Kind} {nullable : Bool} {order : SortOrder} {left right : Value}
    {leftCell rightCell : Bytes} (hleft : encode kind nullable order left = .ok leftCell)
    (hright : encode kind nullable order right = .ok rightCell) :
    Bytes.Settled (order.orient (Value.compare kind left right)) leftCell rightCell := by
  rcases encode_eq_ok.mp hleft with ⟨left, hcell, rfl⟩
  rcases encode_eq_ok.mp hright with ⟨right, hcell', rfl⟩
  exact order.settled_apply (hcell.settled hcell')

end RecordBytes.Sortable
