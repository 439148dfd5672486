import Mathlib
import RecordBytes.Proofs.Key.Prefix

/-!
# The order of bare keys

A key of one byte array that does not sort downward is the bare array between its padding.  Nothing shows
where the array ends and the zeros behind it begin, and yet such keys compare as what is stored, just as the
escaped cells would that other keys hold.

Main results:

- `KeyLayout.encode_of_bare`: what is written for a bare key.
- `KeyLayout.compare_bare`: bare keys, and escaped cells, compare as what is stored.
-/

namespace RecordBytes.KeyLayout

open Outcome

variable {layout : KeyLayout} {field : Field}

/-- A key of one byte array that does not sort downward is bare. -/
theorem bare?_of_field (hfields : layout.fields = [field]) (hkind : field.kind = .bytes)
    (horder : field.order.isDescending = false) : layout.bare? = some field := by
  simp [bare?, hfields, hkind, horder]

/-- A bare key is written for any value that can be stored, whatever bounds are named. -/
theorem encode_of_bare (hbare : layout.bare? = some field) {value stored : Value}
    (hstored : field.stored value = .ok stored) (others : List Value) (bounds : Bounds) :
    layout.encode (value :: others) bounds =
      .ok (layout.padding.wrap (Bare.encode field.nullable stored)) := by
  rcases bare?_eq_some hbare with ⟨hfields, -, -⟩
  have hresolve : layout.resolve bounds = .ok (Span.full 1) := by simp [resolve, hfields]
  rw [encode_of_resolve hresolve, encodeSpan_eq_ok]
  refine ⟨by simp [Span.full], by simp [Span.full, hfields], [stored], ?_, ?_⟩
  · simp only [Span.slice, Span.full, hfields, List.take_succ_cons, List.take_zero, List.drop_zero]
    exact Cells.stored_cons.mpr ⟨stored, [], hstored, rfl, rfl⟩
  · have hwritten := @Written.bare layout (Span.full 1) [stored] field hbare
    rwa [List.flatMap_singleton] at hwritten

/-- What can be stored as a byte array has an escaped cell. -/
theorem exists_escaped_cell (hkind : field.kind = .bytes) {stored : Value} (h : field.Storable stored) :
    ∃ cell, Sortable.encode .bytes field.nullable .ascending stored = .ok cell := by
  rcases field with ⟨property, kind, hstorage⟩
  obtain rfl : kind = .bytes := hkind
  cases h with
  | missing hnullable => exact ⟨_, Sortable.encode_eq_ok.mpr ⟨_, Sortable.Cell.missing hnullable, rfl⟩⟩
  | present content => exact ⟨_, Sortable.encode_eq_ok.mpr ⟨_, Sortable.Cell.present rfl, rfl⟩⟩

/-- Keys of one byte array that does not sort downward compare, padding included, as what is stored: missing
values first, and an array before its extensions.  So do the escaped cells of what is stored. -/
theorem compare_bare (hfields : layout.fields = [field]) (hkind : field.kind = .bytes)
    (horder : field.order.isDescending = false) {left right leftStored rightStored : Value}
    (hleft : field.stored left = .ok leftStored) (hright : field.stored right = .ok rightStored)
    (leftOthers rightOthers : List Value) (bounds : Bounds) :
    ∃ leftKey rightKey leftCell rightCell,
      layout.encode (left :: leftOthers) bounds = .ok leftKey ∧
      layout.encode (right :: rightOthers) bounds = .ok rightKey ∧
      Sortable.encode .bytes field.nullable .ascending leftStored = .ok leftCell ∧
      Sortable.encode .bytes field.nullable .ascending rightStored = .ok rightCell ∧
      compare leftKey rightKey = Value.compare .bytes leftStored rightStored ∧
      compare leftCell rightCell = Value.compare .bytes leftStored rightStored := by
  have hbare := bare?_of_field hfields hkind horder
  have hleftStorable := Field.storable_of_stored hleft
  have hrightStorable := Field.storable_of_stored hright
  rcases exists_escaped_cell hkind hleftStorable with ⟨leftCell, hleftCell⟩
  rcases exists_escaped_cell hkind hrightStorable with ⟨rightCell, hrightCell⟩
  refine ⟨_, _, leftCell, rightCell, encode_of_bare hbare hleft leftOthers bounds,
    encode_of_bare hbare hright rightOthers bounds, hleftCell, hrightCell, ?_, ?_⟩
  · rw [Padding.compare_wrap, Bare.compare_bodies hkind hleftStorable hrightStorable]
  · have hcells := Sortable.settled_encode hleftCell hrightCell
    exact hcells.compare_eq

/-- The key of a digest that may be missing, with three bytes reserved behind it. -/
def digest : KeyLayout :=
  ⟨[Field.plain "digest" .bytes true .unspecified], ⟨1, 3⟩⟩

/-- A digest comes before the same digest with zeros behind it, though the keys differ in length alone. -/
theorem compare_digest :
    ∃ leftCell rightCell,
      Sortable.encode .bytes true .ascending (.of .bytes [7]) = .ok leftCell ∧
      Sortable.encode .bytes true .ascending (.of .bytes [7, 0, 0]) = .ok rightCell ∧
      compare [0, 1, 7, 0, 0, 0] [0, 1, 7, 0, 0, 0, 0, (0 : UInt8)] =
        Value.compare .bytes (.of .bytes [7]) (.of .bytes [7, 0, 0]) ∧
      compare leftCell rightCell = Value.compare .bytes (.of .bytes [7]) (.of .bytes [7, 0, 0]) := by
  have hfields : digest.fields = [Field.plain "digest" .bytes true .unspecified] := rfl
  have hleft : (Field.plain "digest" .bytes true .unspecified).stored (.of .bytes [7]) =
      .ok (.of .bytes [7]) := rfl
  have hright : (Field.plain "digest" .bytes true .unspecified).stored (.of .bytes [7, 0, 0]) =
      .ok (.of .bytes [7, 0, 0]) := rfl
  rcases compare_bare hfields rfl rfl hleft hright [] [] .all with
    ⟨leftKey, rightKey, leftCell, rightCell, hleftKey, hrightKey, hleftCell, hrightCell, hkeys, hcells⟩
  have hleftBytes : digest.encode [.of .bytes [7]] .all = .ok [0, 1, 7, 0, 0, 0] := by decide
  have hrightBytes : digest.encode [.of .bytes [7, 0, 0]] .all = .ok [0, 1, 7, 0, 0, 0, 0, 0] := by decide
  rcases Except.ok.inj (hleftBytes.symm.trans hleftKey) with rfl
  rcases Except.ok.inj (hrightBytes.symm.trans hrightKey) with rfl
  exact ⟨leftCell, rightCell, hleftCell, hrightCell, hkeys, hcells⟩

end RecordBytes.KeyLayout
