import Mathlib
import RecordBytes.Layout.Bare
import RecordBytes.Proofs.Compact.Writable
import RecordBytes.Proofs.Layout.Scanning
import RecordBytes.Proofs.Sortable.Writable

/-!
# What runs of cells can hold

What is read of a field can be stored by it and has a cell, whatever bytes it is read from.  Without adapters
the values that are read are the stored ones, so a run that can be read gives values that can be written.

Main results:

- `Field.finds_scan`: the stored value that is found in a cell can be written.
- `Cells.finds_read`: the values that are found in a run can be stored and written.
-/

namespace RecordBytes

open Outcome

/-! ## Fields -/

namespace Field

variable {form : Form} {field : Field}

/-- A stored value that the field can write, and that has a cell in a form. -/
structure CanHold (form : Form) (field : Field) (stored : Value) : Prop where
  storable : field.Storable stored
  cell : ∃ cell, field.encode form stored = .ok cell

theorem canHold_of_sortable {stored : Value} {cell : Bytes}
    (h : Sortable.Cell field.kind field.nullable stored cell) : field.CanHold .sortable stored := by
  refine ⟨?_, _, Sortable.encode_eq_ok.mpr ⟨cell, h, rfl⟩⟩
  cases h with
  | missing hnullable => exact Storable.missing hnullable
  | present _ => exact Storable.present _

theorem canHold_of_compact {stored : Value} {cell : Bytes}
    (h : Compact.Cell field.kind field.nullable stored cell) : field.CanHold .compact stored := by
  refine ⟨?_, _, Compact.encode_eq_ok.mpr h⟩
  cases h with
  | missing hnullable => exact Storable.missing hnullable
  | present _ => exact Storable.present _

/-- The stored value that is found in a cell can be written. -/
theorem finds_scan (form : Form) (field : Field) : Finds (field.CanHold form) (field.scan form) := by
  refine Finds.bind (Finds.of_forall fun _ => trivial) ?_
  intro _ _
  cases form with
  | sortable =>
    refine (Sortable.finds_read field.kind field.nullable).imp ?_
    rintro stored ⟨cell, hcell⟩
    exact canHold_of_sortable hcell
  | compact =>
    refine (Compact.finds_read field.kind field.nullable).imp ?_
    rintro stored ⟨cell, hcell⟩
    exact canHold_of_compact hcell

/-- Without an adapter, the value that is found is the stored one. -/
theorem finds_read (form : Form) (hplain : field.property.adapter = none) :
    Finds (field.CanHold form) (field.read form) := by
  intro cursor after value hread
  rcases Reading.bind_eq_ok.mp hread with ⟨stored, middle, hscan, hlogical⟩
  rw [Reading.ofExcept_eq_ok, logical_of_plain hplain] at hlogical
  rcases hlogical with ⟨⟨⟩, -⟩
  exact finds_scan form field (scanning_eq_ok.mp hscan)

end Field

/-! ## Runs -/

namespace Cells

/-- Values that the fields store as they are, one for each, and that have a run of cells in a form. -/
structure CanHold (form : Form) (fields : List Field) (values : List Value) : Prop where
  stored : Cells.stored fields values = .ok values
  length : values.length = fields.length
  run : ∃ run, encode form fields values = .ok run

theorem CanHold.cons {form : Form} {field : Field} {fields : List Field} {value : Value} {values : List Value}
    (hplain : field.property.adapter = none) (h : field.CanHold form value) (hothers : CanHold form fields values) :
    CanHold form (field :: fields) (value :: values) := by
  rcases h.cell with ⟨cell, hcell⟩
  rcases hothers.run with ⟨run, hrun⟩
  have hstored := Field.stored_of_storable hplain h.storable
  exact ⟨stored_cons.mpr ⟨_, _, hstored, hothers.stored, rfl⟩, congrArg Nat.succ hothers.length,
    _, encode_cons.mpr ⟨cell, run, hcell, hrun, rfl⟩⟩

/-- Without adapters, the values that are found in a run can be stored and written. -/
theorem finds_read (form : Form) {fields : List Field}
    (hplain : ∀ field ∈ fields, field.property.adapter = none) :
    Finds (CanHold form fields) (read form fields) := by
  induction fields with
  | nil => exact Finds.pure ⟨rfl, rfl, [], rfl⟩
  | cons field fields ih =>
    refine Finds.bind (Field.finds_read form (hplain field List.mem_cons_self)) ?_
    intro value hvalue
    refine Finds.bind (ih fun next hnext => hplain next (List.mem_cons_of_mem _ hnext)) ?_
    intro values hvalues
    exact Finds.pure (CanHold.cons (hplain field List.mem_cons_self) hvalue hvalues)

end Cells

/-! ## Bare byte arrays -/

/-- Whatever bytes a bare byte array is read from, its field can store it. -/
theorem Bare.storable_of_decode {field : Field} (hkind : field.kind = .bytes) {damage : Damage} {body : Bytes}
    {stored : Value} (h : Bare.decode field.nullable damage body = .ok stored) : field.Storable stored := by
  rcases field with ⟨property, kind, hstorage⟩
  obtain rfl : kind = .bytes := hkind
  unfold Bare.decode at h
  split at h
  · next hnullable =>
    cases body with
    | nil => cases h
    | cons first rest =>
      dsimp only at h
      split at h
      · cases h
        exact Field.Storable.missing hnullable
      · split at h
        · cases h
          exact @Field.Storable.present ⟨property, .bytes, hstorage⟩ rest
        · cases h
  · cases h
    exact @Field.Storable.present ⟨property, .bytes, hstorage⟩ body

end RecordBytes
