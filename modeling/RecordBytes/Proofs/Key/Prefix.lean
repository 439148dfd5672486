import Mathlib
import RecordBytes.Proofs.Key.Order
import RecordBytes.Proofs.Layout.Bare
import RecordBytes.Proofs.Layout.Padding

/-!
# Leading parts of keys

The part of a key that covers its leading fields is the front of the key.  Another key begins with the same
bytes only if it stores the same values in these fields, since a cell is never the front of a different one.

Main results:

- `Cells.compare_stored_eq_eq`: rows that are stored as equal at every index.
- `KeyLayout.eq_iff_same`: keys are equal exactly when all their stored values compare as equal.
- `KeyLayout.prefix_iff_same`: a key begins with the leading part of another one exactly when the leading
  stored values compare as equal.
-/

namespace RecordBytes

open Outcome

/-! ## Leading spans -/

/-- The span of the first `stop` of `count` properties. -/
def Span.head (stop count : Nat) (h : stop ≤ count) : Span :=
  ⟨0, stop, count, Nat.zero_le _, h⟩

@[simp]
theorem Span.slice_head {α : Type} {stop count : Nat} (h : stop ≤ count) (items : List α) :
    (Span.head stop count h).slice items = items.take stop := by
  simp [slice, head]

/-! ## Equal stored values -/

/-- What the field at an index stores for the two values there compares as equal. -/
def Cells.Same (fields : List Field) (left right : List Value) (index : Nat) : Prop :=
  ∃ field low high lowStored highStored,
    fields[index]? = some field ∧ left[index]? = some low ∧ right[index]? = some high ∧
      field.stored low = .ok lowStored ∧ field.stored high = .ok highStored ∧
        Value.compare field.kind lowStored highStored = .eq

theorem Cells.same_take {fields : List Field} {left right : List Value} {leading index : Nat}
    (h : index < leading) :
    Same (fields.take leading) (left.take leading) (right.take leading) index ↔
      Same fields left right index := by
  simp [Same, h]

/-- Rows compare as equal exactly when they are stored as equal at every index. -/
theorem Cells.compare_stored_eq_eq {fields : List Field} {left right leftStored rightStored : List Value}
    (hleft : left.length = fields.length) (hright : right.length = fields.length)
    (hleftStored : Cells.stored fields left = .ok leftStored)
    (hrightStored : Cells.stored fields right = .ok rightStored) :
    Cells.compare fields leftStored rightStored = .eq ↔
      ∀ index < fields.length, Same fields left right index := by
  have hleftLength := length_stored hleftStored
  have hrightLength := length_stored hrightStored
  rw [hleft, Nat.min_self] at hleftLength
  rw [hright, Nat.min_self] at hrightLength
  rw [compare_eq_eq hleftLength hrightLength]
  constructor
  · intro hall index hindex
    have hfield : fields[index]? = some fields[index] := List.getElem?_eq_getElem hindex
    have hlow : left[index]? = some left[index] := List.getElem?_eq_getElem (by omega)
    have hhigh : right[index]? = some right[index] := List.getElem?_eq_getElem (by omega)
    rcases getElem?_stored hleftStored hfield hlow with ⟨lowStored, hlowStored, hlowIndex⟩
    rcases getElem?_stored hrightStored hfield hhigh with ⟨highStored, hhighStored, hhighIndex⟩
    exact ⟨_, _, _, lowStored, highStored, hfield, hlow, hhigh, hlowStored, hhighStored,
      hall index _ _ _ hfield hlowIndex hhighIndex⟩
  · intro hall index field lowStored highStored hfield hlowIndex hhighIndex
    have hindex : index < fields.length := (List.getElem?_eq_some_iff.mp hfield).1
    rcases hall index hindex with
      ⟨field', low, high, lowStored', highStored', hfield', hlow, hhigh, hlowStored, hhighStored, hsame⟩
    rcases Option.some.inj (hfield.symm.trans hfield') with rfl
    rcases getElem?_stored hleftStored hfield hlow with ⟨found, hfound, hfoundIndex⟩
    rcases getElem?_stored hrightStored hfield hhigh with ⟨found', hfound', hfoundIndex'⟩
    rcases Except.ok.inj (hfound.symm.trans hlowStored) with rfl
    rcases Except.ok.inj (hfound'.symm.trans hhighStored) with rfl
    rcases Option.some.inj (hlowIndex.symm.trans hfoundIndex) with rfl
    rcases Option.some.inj (hhighIndex.symm.trans hfoundIndex') with rfl
    exact hsame

/-! ## Leading parts of keys -/

namespace KeyLayout

variable {layout : KeyLayout}

/-- A bare key has one field, a byte array that does not sort downward. -/
theorem bare?_eq_some {field : Field} (h : layout.bare? = some field) :
    layout.fields = [field] ∧ field.kind = .bytes ∧ field.order.isDescending = false := by
  unfold bare? at h
  split at h
  · next found hfields =>
    by_cases hcheck : found.kind = .bytes ∧ !found.order.isDescending
    · rw [if_pos hcheck] at h
      rcases Option.some.inj h with rfl
      exact ⟨hfields, hcheck.1, by simpa using hcheck.2⟩
    · rw [if_neg hcheck] at h
      cases h
  · cases h

theorem mem_of_bare? {field : Field} (h : layout.bare? = some field) : field ∈ layout.fields := by
  rw [(bare?_eq_some h).1]
  exact List.mem_singleton_self field

theorem resolve_all (layout : KeyLayout) :
    layout.resolve .all = .ok (Span.head layout.fields.length layout.fields.length (Nat.le_refl _)) := by
  unfold resolve
  by_cases hone : layout.fields.length = 1
  · simp [hone, Span.full, Span.head]
  · simp [hone, Span.resolve, Bounds.all, Bound.first?, Bound.behind?, Span.head]

theorem resolve_upTo {leading : Nat} (hpos : 0 < leading) (h : leading ≤ layout.fields.length) :
    layout.resolve (.upTo leading) = .ok (Span.head leading layout.fields.length h) := by
  unfold resolve
  by_cases hone : layout.fields.length = 1
  · have hleading : leading = 1 := by omega
    simp [hone, hleading, Span.full, Span.head]
  · simp [hone, h.not_gt, Span.resolve, Bounds.upTo, Bound.first?, Bound.behind?, Span.head]

/-- The leading part of a key holds what is stored for the leading values. -/
theorem written_of_encodeSpan {values : List Value} {leading : Nat} (hleading : leading ≤ layout.fields.length)
    (hcount : values.length = layout.fields.length) {bytes : Bytes}
    (h : layout.encodeSpan values (Span.head leading layout.fields.length hleading) = .ok bytes) :
    ∃ stored, Cells.stored (layout.fields.take leading) (values.take leading) = .ok stored ∧
      stored.length = leading ∧
      Written layout (Span.head leading layout.fields.length hleading) stored bytes := by
  rcases encodeSpan_eq_ok.mp h with ⟨-, -, stored, hstored, hwritten⟩
  have hlength := Cells.length_stored_slice hleading (hleading.trans hcount.ge) hstored
  rw [Span.slice_head, Span.slice_head] at hstored
  exact ⟨stored, hstored, hlength, hwritten⟩

/-- A whole key holds what is stored for all values. -/
theorem written_of_encode {values : List Value} (hcount : values.length = layout.fields.length) {key : Bytes}
    (h : layout.encode values .all = .ok key) :
    ∃ stored, Cells.stored layout.fields values = .ok stored ∧ stored.length = layout.fields.length ∧
      Written layout (Span.head layout.fields.length layout.fields.length (Nat.le_refl _)) stored key := by
  rw [encode_of_resolve (resolve_all layout)] at h
  rcases written_of_encodeSpan (Nat.le_refl _) hcount h with ⟨stored, hstored, hlength, hwritten⟩
  rw [List.take_length, ← hcount, List.take_length] at hstored
  exact ⟨stored, hstored, hlength, hwritten⟩

/-- A whole key begins with its padding. -/
theorem prefix_of_encode {values : List Value} (hcount : values.length = layout.fields.length) {key : Bytes}
    (h : layout.encode values .all = .ok key) : List.replicate layout.padding.before 0 <+: key := by
  rcases written_of_encode hcount h with ⟨stored, -, -, hwritten⟩
  cases hwritten with
  | bare _ =>
    rw [Padding.wrap, List.append_assoc]
    exact List.prefix_append _ _
  | cells _ _ =>
    rw [Padding.wrap, List.append_assoc]
    exact List.prefix_append _ _

/-- Keys are equal exactly when all their stored values compare as equal. -/
theorem eq_iff_same {left right : List Value} {start key : Bytes}
    (hleftCount : left.length = layout.fields.length) (hrightCount : right.length = layout.fields.length)
    (hleft : layout.encode left .all = .ok start) (hright : layout.encode right .all = .ok key) :
    start = key ↔ ∀ index < layout.fields.length, Cells.Same layout.fields left right index := by
  rcases written_of_encode hleftCount hleft with ⟨leftStored, hleftStored, hleftLength, hleftWritten⟩
  rcases written_of_encode hrightCount hright with
    ⟨rightStored, hrightStored, hrightLength, hrightWritten⟩
  rw [← Cells.compare_stored_eq_eq hleftCount hrightCount hleftStored hrightStored]
  cases hleftWritten with
  | bare hbare =>
    cases hrightWritten with
    | cells hbare' _ => simp [hbare] at hbare'
    | bare hbare' =>
      rcases Option.some.inj (hbare.symm.trans hbare') with rfl
      rcases bare?_eq_some hbare with ⟨hfields, hkind, -⟩
      rw [hfields] at hleftStored hrightStored hleftLength hrightLength ⊢
      rcases Cells.storable_of_stored hleftStored hleftLength with ⟨low, rfl, hlow⟩
      rcases Cells.storable_of_stored hrightStored hrightLength with ⟨high, rfl, hhigh⟩
      rw [Padding.wrap_inj]
      simp [Cells.compare, Field.compare, Bare.encode_eq_iff hkind hlow hhigh]
  | cells hbare hleftRun =>
    rcases hrightWritten.run_of_not_bare hbare with ⟨rightRun, hrightRun, rfl⟩
    rw [Span.slice_head, List.take_length] at hleftRun hrightRun
    rw [Padding.wrap_inj]
    exact (Cells.settled_encode (hleftLength.trans hrightLength.symm) hleftRun hrightRun).eq_iff

/-- A key of more than one field is not bare. -/
theorem bare?_of_lt {leading : Nat} (hpos : 0 < leading) (h : leading < layout.fields.length) :
    layout.bare? = none := by
  cases hbare : layout.bare? with
  | none => rfl
  | some field =>
    rw [(bare?_eq_some hbare).1, List.length_singleton] at h
    omega

/-- A proper leading part has the padding before the key and none behind it. -/
theorem wrap_prefix_iff {leading : Nat} (h : leading < layout.fields.length) {part run : Bytes} :
    (layout.padding.within (Span.head leading layout.fields.length h.le)).wrap part <+:
        (layout.padding.within
          (Span.head layout.fields.length layout.fields.length (Nat.le_refl _))).wrap run ↔
      part <+: run ++ List.replicate layout.padding.after 0 := by
  have htail : (Span.head leading layout.fields.length h.le).isTail = false := by
    simpa [Span.isTail, Span.head] using h.ne
  have hwhole : (Span.head layout.fields.length layout.fields.length (Nat.le_refl _)).isTail = true := by
    simp [Span.isTail, Span.head]
  simp only [Padding.wrap, Padding.within, htail, hwhole]
  simp only [Span.isHead, Span.head, beq_self_eq_true, if_true, Bool.false_eq_true, if_false,
    List.replicate_zero, List.append_nil, List.append_assoc, List.prefix_append_right_inj]

/-- A key begins with the leading part of another one exactly when the leading stored values compare as
equal. -/
theorem prefix_iff_same {left right : List Value} {leading : Nat} {start key : Bytes} (hpos : 0 < leading)
    (hleading : leading < layout.fields.length) (hleftCount : left.length = layout.fields.length)
    (hrightCount : right.length = layout.fields.length)
    (hleft : layout.encode left (.upTo leading) = .ok start)
    (hright : layout.encode right .all = .ok key) :
    start <+: key ↔ ∀ index < leading, Cells.Same layout.fields left right index := by
  have hnotBare := bare?_of_lt hpos hleading
  rw [encode_of_resolve (resolve_upTo hpos hleading.le)] at hleft
  rcases written_of_encodeSpan hleading.le hleftCount hleft with
    ⟨leftStored, hleftStored, hleftLength, hleftWritten⟩
  rcases written_of_encode hrightCount hright with
    ⟨rightStored, hrightStored, hrightLength, hrightWritten⟩
  have hfieldsTake : (layout.fields.take leading).length = leading := List.length_take_of_le hleading.le
  have hleftTake : (left.take leading).length = leading := List.length_take_of_le (by omega)
  have hrightTake : (right.take leading).length = leading := List.length_take_of_le (by omega)
  -- The leading stored values decide, and they are compared as the leading parts of both keys.
  have hcompare := Cells.compare_stored_eq_eq (hleftTake.trans hfieldsTake.symm)
    (hrightTake.trans hfieldsTake.symm) hleftStored
    (Cells.stored_take leading hrightStored)
  have hsame : ∀ index < leading,
      (Cells.Same (layout.fields.take leading) (left.take leading) (right.take leading) index ↔
        Cells.Same layout.fields left right index) := by
    intro index hindex
    exact Cells.same_take hindex
  rw [hfieldsTake] at hcompare
  rw [← forall₂_congr hsame, ← hcompare]
  rcases hleftWritten.run_of_not_bare hnotBare with ⟨leftRun, hleftRun, rfl⟩
  rcases hrightWritten.run_of_not_bare hnotBare with ⟨rightRun, hrightRun, rfl⟩
  rw [Span.slice_head] at hleftRun
  rw [Span.slice_head, List.take_length] at hrightRun
  rcases Cells.encode_take leading hrightRun with ⟨first, rest, hfirst, rfl⟩
  have hfirstLength : (rightStored.take leading).length = leading := List.length_take_of_le (by omega)
  have hsettled := Cells.settled_encode (hleftLength.trans hfirstLength.symm) hleftRun hfirst
  rw [wrap_prefix_iff hleading, List.append_assoc]
  exact hsettled.prefix_append_iff _

/-- A part of a key depends on the values in its span alone, whether it is written or refused. -/
theorem encodeSpan_congr {left right : List Value} {span : Span} (hlength : left.length = right.length)
    (hslice : span.slice left = span.slice right) :
    layout.encodeSpan left span = layout.encodeSpan right span := by
  have hof : span.of? left = span.of? right := by
    unfold Span.slice at hslice
    rw [Span.of?, Span.of?, slice?, slice?, hlength, hslice]
  unfold encodeSpan
  rw [hlength, hof]

end KeyLayout

end RecordBytes
