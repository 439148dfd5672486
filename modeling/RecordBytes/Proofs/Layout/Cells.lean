import Mathlib
import RecordBytes.Layout.Cells
import RecordBytes.Proofs.Compact.Size
import RecordBytes.Proofs.Fault.Outcome
import RecordBytes.Proofs.Sortable.Size

/-!
# Runs of cells

A run of cells is written field by field, and its length is known beforehand.  Of sortable cells, the first
field for which two rows of stored values differ decides how their runs compare.

Main results:

- `Span.of?_eq_some`: what a span selects from a list.
- `Cells.stored_cons`, `Cells.encode_cons`: a run is its first cell and the run of the others.
- `Cells.size_of_encode`, `Cells.leastSize_le`: computed lengths of runs.
- `Run.encode_eq_ok`: what is written for a run.
- `Cells.settled_encode`: rows of stored values compare as their runs.
-/

namespace RecordBytes

open Outcome

/-! ## Spans -/

namespace Span

variable {α : Type}

/-- The items in the span. -/
def slice (span : Span) (items : List α) : List α :=
  (items.take span.stop).drop span.start

theorem of?_eq_some {span : Span} {items found : List α} :
    span.of? items = some found ↔ span.stop ≤ items.length ∧ span.slice items = found := by
  unfold of?
  rw [slice?_eq_some]
  simp [slice, span.start_le_stop]

theorem length_slice (span : Span) {items : List α} (h : span.stop ≤ items.length) :
    (span.slice items).length = span.size := by
  simp [slice, size, Nat.min_eq_left h]

theorem count_of_resolve {bounds : Bounds} {count : Nat} {span : Span}
    (h : Span.resolve bounds count = .ok span) : span.count = count := by
  simp only [Span.resolve] at h
  split at h
  · cases h
  · split at h
    · cases h
    · split at h
      · cases h
      · cases h
        rfl

/-- A list is what lies before the span, in it and behind it. -/
theorem append_slice_append (span : Span) (items : List α) :
    items.take span.start ++ (span.slice items ++ items.drop span.stop) = items := by
  have hfront : items.take span.start = (items.take span.stop).take span.start := by
    rw [List.take_take, Nat.min_eq_left span.start_le_stop]
  rw [Span.slice, hfront, ← List.append_assoc, List.take_append_drop, List.take_append_drop]

/-- The items in a span are those behind as many others as lie before it. -/
theorem of?_append {span : Span} {front found : List α} (hfront : front.length = span.start)
    (hfound : found.length = span.size) (behind : List α) :
    span.of? (front ++ (found ++ behind)) = some found := by
  have hboth : (front ++ found).length = span.stop := by
    rw [List.length_append, hfront, hfound, Span.size]
    exact Nat.add_sub_of_le span.start_le_stop
  rw [Span.of?_eq_some, Span.slice, ← List.append_assoc, List.take_left' hboth, List.drop_left' hfront,
    List.length_append, hboth]
  exact ⟨Nat.le_add_right _ _, rfl⟩

end Span

/-! ## Runs -/

namespace Cells

@[simp]
theorem stored_nil (values : List Value) : stored [] values = .ok [] := by
  simp [stored]

/-- What is stored for a first value and for the others. -/
theorem stored_cons {field : Field} {fields : List Field} {value : Value} {values stored : List Value} :
    Cells.stored (field :: fields) (value :: values) = .ok stored ↔
      ∃ first rest, field.stored value = .ok first ∧ Cells.stored fields values = .ok rest ∧
        first :: rest = stored := by
  rw [Cells.stored]
  exact both_eq_ok

/-- One value is stored for each field that has one. -/
theorem length_stored {fields : List Field} {values stored : List Value}
    (h : Cells.stored fields values = .ok stored) : stored.length = min fields.length values.length := by
  induction fields generalizing values stored with
  | nil =>
    rcases Except.ok.inj ((stored_nil values).symm.trans h) with rfl
    simp
  | cons field fields ih =>
    cases values with
    | nil =>
      rcases Except.ok.inj h with rfl
      simp
    | cons value values =>
      rcases stored_cons.mp h with ⟨first, rest, -, hrest, rfl⟩
      simp [ih hrest]

/-- One value is stored for each field in a span that lies inside the fields and the values. -/
theorem length_stored_slice {span : Span} {fields : List Field} {values stored : List Value}
    (hfields : span.stop ≤ fields.length) (hvalues : span.stop ≤ values.length)
    (h : Cells.stored (span.slice fields) (span.slice values) = .ok stored) :
    stored.length = span.size := by
  rw [length_stored h, span.length_slice hfields, span.length_slice hvalues, Nat.min_self]

/-- What is stored for the leading fields is the front of what is stored for all. -/
theorem stored_take (leading : Nat) {fields : List Field} {values stored : List Value}
    (h : Cells.stored fields values = .ok stored) :
    Cells.stored (fields.take leading) (values.take leading) = .ok (stored.take leading) := by
  induction fields generalizing values stored leading with
  | nil =>
    rcases Except.ok.inj ((stored_nil values).symm.trans h) with rfl
    simp
  | cons field fields ih =>
    cases values with
    | nil =>
      rcases Except.ok.inj h with rfl
      simp [Cells.stored]
    | cons value values =>
      rcases stored_cons.mp h with ⟨first, rest, hfirst, hrest, rfl⟩
      cases leading with
      | zero => rfl
      | succ leading => exact stored_cons.mpr ⟨first, rest.take leading, hfirst, ih leading hrest, rfl⟩

/-- What is stored at an index is what the field there stores for the value there. -/
theorem getElem?_stored {fields : List Field} {values stored : List Value}
    (h : Cells.stored fields values = .ok stored) {index : Nat} {field : Field} {value : Value}
    (hfield : fields[index]? = some field) (hvalue : values[index]? = some value) :
    ∃ found, field.stored value = .ok found ∧ stored[index]? = some found := by
  induction fields generalizing values stored index with
  | nil => simp at hfield
  | cons head fields ih =>
    cases values with
    | nil => simp at hvalue
    | cons first values =>
      rcases stored_cons.mp h with ⟨found, rest, hfound, hrest, rfl⟩
      cases index with
      | zero =>
        simp only [List.getElem?_cons_zero, Option.some.injEq] at hfield hvalue
        subst hfield hvalue
        exact ⟨found, hfound, rfl⟩
      | succ index =>
        simp only [List.getElem?_cons_succ] at hfield hvalue ⊢
        exact ih hrest hfield hvalue

/-- The run of a first cell and of the others. -/
theorem encode_cons {form : Form} {field : Field} {fields : List Field} {value : Value}
    {stored : List Value} {run : Bytes} :
    encode form (field :: fields) (value :: stored) = .ok run ↔
      ∃ cell rest, field.encode form value = .ok cell ∧ encode form fields stored = .ok rest ∧
        cell ++ rest = run := by
  rw [encode]
  exact both_eq_ok

theorem encode_nil {form : Form} {stored : List Value} {run : Bytes} :
    encode form [] stored = .ok run ↔ [] = run := by
  simp [encode]

/-- The run of the leading fields is the front of the run of all. -/
theorem encode_take (leading : Nat) {form : Form} {fields : List Field} {stored : List Value} {run : Bytes}
    (h : encode form fields stored = .ok run) :
    ∃ first rest, encode form (fields.take leading) (stored.take leading) = .ok first ∧
      first ++ rest = run := by
  induction fields generalizing stored run leading with
  | nil =>
    rcases encode_nil.mp h with rfl
    exact ⟨[], [], by simp [encode_nil], rfl⟩
  | cons field fields ih =>
    cases stored with
    | nil =>
      rcases Except.ok.inj h with rfl
      exact ⟨[], [], by simp [encode], rfl⟩
    | cons value stored =>
      rcases encode_cons.mp h with ⟨cell, restRun, hcell, hrest, rfl⟩
      cases leading with
      | zero => exact ⟨[], cell ++ restRun, rfl, rfl⟩
      | succ leading =>
        rcases ih leading hrest with ⟨first, rest, hfirst, rfl⟩
        exact ⟨cell ++ first, rest, encode_cons.mpr ⟨cell, first, hcell, hfirst, rfl⟩, by simp⟩

end Cells

/-! ## Sizes -/

namespace Field

/-- The computed length of a stored value is the length of its written cell. -/
theorem size_of_encode {form : Form} {field : Field} {value : Value} {cell : Bytes}
    (h : field.encode form value = .ok cell) : field.size form value = .ok cell.length := by
  cases form with
  | sortable => exact Sortable.size_of_encode h
  | compact => exact Compact.size_of_encode h

/-- Where the length of the cells of a field is fixed, every cell has it. -/
theorem length_of_fixedSize {form : Form} {field : Field} {value : Value} {cell : Bytes}
    (h : field.encode form value = .ok cell) {size : Nat} (hsize : field.fixedSize form = some size) :
    cell.length = size := by
  cases form with
  | sortable => exact Sortable.length_of_fixedSize h hsize
  | compact => exact Compact.length_of_fixedSize h hsize

/-- No cell is shorter than the least length of the cells of its field. -/
theorem leastSize_le_length {form : Form} {field : Field} {value : Value} {cell : Bytes}
    (h : field.encode form value = .ok cell) : field.leastSize form ≤ cell.length := by
  cases form with
  | sortable => exact Sortable.leastSize_le_length h
  | compact => exact Compact.leastSize_le_length h

end Field

namespace Cells

/-- The length of a cell, known from the field or measured, is the length of the written cell. -/
theorem cellSize_of_encode {form : Form} {field : Field} {value : Value} {cell : Bytes}
    (h : field.encode form value = .ok cell) : cellSize form field value = .ok cell.length := by
  unfold cellSize
  cases hsize : field.fixedSize form with
  | none => exact Field.size_of_encode h
  | some size => rw [Field.length_of_fixedSize h hsize]

/-- The computed length of a run is the length of the written run. -/
theorem size_of_encode {form : Form} {fields : List Field} {stored : List Value} {run : Bytes}
    (h : encode form fields stored = .ok run) : size form fields stored = .ok run.length := by
  induction fields generalizing stored run with
  | nil =>
    rcases encode_nil.mp h with rfl
    simp [size]
  | cons field fields ih =>
    cases stored with
    | nil =>
      rcases Except.ok.inj h with rfl
      simp [size]
    | cons value stored =>
      rcases encode_cons.mp h with ⟨cell, rest, hcell, hrest, rfl⟩
      simp [size, cellSize_of_encode hcell, ih hrest, pure, Except.pure]

/-- No run of cells for all fields is shorter than the least length of a run. -/
theorem leastSize_le {form : Form} {fields : List Field} {stored : List Value} {run : Bytes}
    (hlength : stored.length = fields.length) (h : encode form fields stored = .ok run) :
    leastSize form fields ≤ run.length := by
  induction fields generalizing stored run with
  | nil => simp [leastSize]
  | cons field fields ih =>
    cases stored with
    | nil => cases hlength
    | cons value stored =>
      rcases encode_cons.mp h with ⟨cell, rest, hcell, hrest, rfl⟩
      have hothers := ih (Nat.succ.inj hlength) hrest
      rw [leastSize, List.length_append]
      exact Nat.add_le_add (Field.leastSize_le_length hcell) hothers

end Cells

/-- A run is written behind its header, between its padding, when the cells are. -/
theorem Run.encode_eq_ok {form : Form} {fields : List Field} {padding : Padding} {header bytes : Bytes}
    {stored : List Value} :
    Run.encode ⟨form, fields, padding⟩ header stored = .ok bytes ↔
      ∃ cells, Cells.encode form fields stored = .ok cells ∧ padding.wrap (header ++ cells) = bytes := by
  unfold Run.encode
  simp only [bind_eq_ok, pure_eq_ok]
  constructor
  · intro h
    rcases h with ⟨-, -, cells, hcells, hbytes⟩
    exact ⟨cells, hcells, hbytes⟩
  · intro h
    rcases h with ⟨cells, hcells, hbytes⟩
    refine ⟨padding.size + header.length + cells.length, ?_, cells, hcells, hbytes⟩
    simp [Run.size, Cells.size_of_encode hcells, pure, Except.pure]

/-! ## Order -/

/-- The order of the stored values of a field. -/
protected def Field.compare (field : Field) (left right : Value) : Ordering :=
  field.order.orient (Value.compare field.kind left right)

/-- Rows of stored values compare by the first field for which they differ. -/
protected def Cells.compare : List Field → List Value → List Value → Ordering
  | field :: fields, left :: lefts, right :: rights =>
    (field.compare left right).then (Cells.compare fields lefts rights)
  | _, _, _ => .eq

/-- Rows of as many stored values compare as their runs of sortable cells. -/
theorem Cells.settled_encode {fields : List Field} {left right : List Value} {leftRun rightRun : Bytes}
    (hlength : left.length = right.length) (hleft : encode .sortable fields left = .ok leftRun)
    (hright : encode .sortable fields right = .ok rightRun) :
    Bytes.Settled (Cells.compare fields left right) leftRun rightRun := by
  induction fields generalizing left right leftRun rightRun with
  | nil =>
    rcases encode_nil.mp hleft with rfl
    rcases encode_nil.mp hright with rfl
    exact Bytes.Settled.refl []
  | cons field fields ih =>
    cases left with
    | nil =>
      rcases List.length_eq_zero_iff.mp hlength.symm with rfl
      rcases Except.ok.inj hleft with rfl
      rcases Except.ok.inj hright with rfl
      exact Bytes.Settled.refl []
    | cons low left =>
      cases right with
      | nil => cases hlength
      | cons high right =>
        rcases encode_cons.mp hleft with ⟨lowCell, leftRest, hlow, hleftRest, rfl⟩
        rcases encode_cons.mp hright with ⟨highCell, rightRest, hhigh, hrightRest, rfl⟩
        have hcell := Sortable.settled_encode hlow hhigh
        exact hcell.append (ih (Nat.succ.inj hlength) hleftRest hrightRest)

/-- Rows of one length compare as equal exactly when they do for every field. -/
theorem Cells.compare_eq_eq {fields : List Field} {left right : List Value}
    (hleft : left.length = fields.length) (hright : right.length = fields.length) :
    Cells.compare fields left right = .eq ↔
      ∀ (index : Nat) (field : Field) (low high : Value), fields[index]? = some field →
        left[index]? = some low → right[index]? = some high →
          Value.compare field.kind low high = .eq := by
  induction fields generalizing left right with
  | nil => simp [Cells.compare]
  | cons field fields ih =>
    rcases List.exists_cons_of_length_eq_add_one hleft with ⟨low, left, rfl⟩
    rcases List.exists_cons_of_length_eq_add_one hright with ⟨high, right, rfl⟩
    have hrest := ih (Nat.succ.inj hleft) (Nat.succ.inj hright)
    rw [Cells.compare, Ordering.then_eq_eq, Field.compare, SortOrder.orient_eq_eq, hrest]
    constructor
    · intro h index
      rcases h with ⟨hfirst, hothers⟩
      cases index with
      | zero =>
        rintro field' low' high' ⟨⟩ ⟨⟩ ⟨⟩
        exact hfirst
      | succ index => exact hothers index
    · intro hall
      refine ⟨hall 0 field low high rfl rfl rfl, ?_⟩
      intro index
      exact hall (index + 1)

end RecordBytes
