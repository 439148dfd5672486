import Mathlib
import RecordBytes.Proofs.Compact.Reading
import RecordBytes.Proofs.Field.Stored
import RecordBytes.Proofs.Layout.Cells
import RecordBytes.Proofs.Sortable.Reading

/-!
# Reading runs of cells

A run is read back cell by cell; what is found in each cell goes through the adapter of its field, and the
first adapter that refuses ends the reading.  The compact form gives values back as they are, the sortable
one up to NaNs and equal decimals.

Main results:

- `Field.read_encode`: a written cell is read back through the adapter.
- `Cells.read_encode`: a written run is read back, whatever is written behind it.
- `Cells.encode_restored`: what is read back has the same run.
-/

namespace RecordBytes

open Outcome

/-! ## Steps that may end in host code -/

/-- A chain of steps succeeds when its first step does and the rest succeeds on what it found. -/
theorem Reading.bind_eq_ok {α β : Type} {reading : Reading α} {next : α → Reading β} {cursor after : Cursor}
    {found : β} :
    (reading >>= next) cursor = .ok found after ↔
      ∃ first middle, reading cursor = .ok first middle ∧ next first middle = .ok found after := by
  simp only [Bind.bind, EStateM.bind]
  cases reading cursor with
  | ok first middle => simp
  | error fault middle => simp

theorem Reading.pure_eq_ok {α : Type} {given found : α} {cursor after : Cursor} :
    (pure given : Reading α) cursor = .ok found after ↔ given = found ∧ cursor = after := by
  simp [pure, EStateM.pure]

theorem Reading.runOn_eq_ok {α : Type} {reading : Reading α} {bytes : Bytes} {found : α} {after : Cursor} :
    reading.runOn bytes = .ok (found, after) ↔ reading (Cursor.start bytes 0) = .ok found after := by
  unfold runOn
  cases reading (Cursor.start bytes 0) with
  | ok given middle => simp
  | error fault middle => simp

theorem Reading.ofScan_eq_ok {α : Type} {scan : Scan α} {cursor after : Cursor} {found : α} :
    Reading.ofScan scan cursor = .ok found after ↔ scan cursor = .ok found after := by
  unfold ofScan
  cases scan cursor with
  | ok given middle => simp
  | error damage middle => simp

theorem Reading.ofExcept_eq_ok {α : Type} {outcome : Except Fault α} {cursor after : Cursor} {found : α} :
    Reading.ofExcept outcome cursor = .ok found after ↔ outcome = .ok found ∧ cursor = after := by
  cases outcome with
  | ok given => simp [ofExcept, pure, EStateM.pure]
  | error fault => simp [ofExcept, throw, throwThe, MonadExceptOf.throw, EStateM.throw]

/-- A step of reading comes to an outcome; where it succeeds, it stops in front of the given bytes. -/
def Reading.EndsWith {α : Type} (result : EStateM.Result Fault Cursor α) (outcome : Except Fault α)
    (position : Nat) (unread : Bytes) : Prop :=
  match outcome with
  | .ok found => ∃ mask, result = .ok found ⟨position, unread, mask⟩
  | .error fault => ∃ cursor, result = .error fault cursor

/-- A step that needs no reading leaves the cursor where it is. -/
theorem Reading.endsWith_ofExcept {α : Type} (outcome : Except Fault α) (position : Nat) (unread : Bytes)
    (mask : UInt8) : EndsWith (ofExcept outcome ⟨position, unread, mask⟩) outcome position unread := by
  cases outcome with
  | ok found => exact ⟨mask, rfl⟩
  | error fault => exact ⟨_, rfl⟩

/-- A step behind a step that finds something. -/
theorem Reading.EndsWith.bind_ok {α β : Type} {reading : Reading α} {next : α → Reading β} {cursor : Cursor}
    {found : α} {outcome : Except Fault β} {position position' : Nat} {unread unread' : Bytes}
    (h : EndsWith (reading cursor) (.ok found) position unread)
    (hnext : ∀ mask : UInt8, EndsWith (next found ⟨position, unread, mask⟩) outcome position' unread') :
    EndsWith ((reading >>= next) cursor) outcome position' unread' := by
  rcases h with ⟨mask, hrun⟩
  have hboth : (reading >>= next) cursor = next found ⟨position, unread, mask⟩ := by
    simp [Bind.bind, EStateM.bind, hrun]
  rw [hboth]
  exact hnext mask

/-- A step behind a step, whatever becomes of the first. -/
theorem Reading.EndsWith.bind {α β : Type} {reading : Reading α} {next : α → Reading β} {cursor : Cursor}
    {first : Except Fault α} {rest : α → Except Fault β} {position position' : Nat} {unread unread' : Bytes}
    (h : EndsWith (reading cursor) first position unread)
    (hnext : ∀ (found : α) (mask : UInt8),
      EndsWith (next found ⟨position, unread, mask⟩) (rest found) position' unread') :
    EndsWith ((reading >>= next) cursor) (first >>= rest) position' unread' := by
  cases first with
  | ok found => exact bind_ok h (hnext found)
  | error fault =>
    rcases h with ⟨after, hrun⟩
    exact ⟨after, by simp [Bind.bind, EStateM.bind, hrun]⟩

/-- A step that succeeds from the start of some bytes. -/
theorem Reading.EndsWith.runOn_ok {α : Type} {reading : Reading α} {bytes : Bytes} {found : α}
    {position : Nat} {unread : Bytes}
    (h : EndsWith (reading (Cursor.start bytes 0)) (.ok found) position unread) :
    ∃ mask, reading.runOn bytes = .ok (found, ⟨position, unread, mask⟩) := by
  rcases h with ⟨mask, hrun⟩
  exact ⟨mask, by simp only [Reading.runOn, hrun]⟩

/-- A step that fails from the start of some bytes. -/
theorem Reading.EndsWith.runOn_error {α : Type} {reading : Reading α} {bytes : Bytes} {fault : Fault}
    {position : Nat} {unread : Bytes}
    (h : EndsWith (reading (Cursor.start bytes 0)) (.error fault) position unread) :
    reading.runOn bytes = .error fault := by
  rcases h with ⟨after, hrun⟩
  simp only [Reading.runOn, hrun]

/-- What a step of reading finds in some bytes, wherever it stops. -/
theorem Reading.EndsWith.outcome_eq {α : Type} {reading : Reading α} {bytes : Bytes}
    {outcome : Except Fault α} {position : Nat} {unread : Bytes}
    (h : EndsWith (reading (Cursor.start bytes 0)) outcome position unread) :
    (reading.runOn bytes >>= fun (found, _) => pure found) = outcome := by
  cases outcome with
  | ok found =>
    rcases h.runOn_ok with ⟨mask, hrun⟩
    rw [hrun]
    rfl
  | error fault =>
    rw [h.runOn_error]
    rfl

/-! ## Fields -/

/-- The value that is read back from the cell of a value. -/
def Form.restored : Form → Value → Value
  | .sortable => Value.restored
  | .compact => id

@[simp]
theorem Form.restored_sortable : Form.sortable.restored = Value.restored := rfl

@[simp]
theorem Form.restored_compact : Form.compact.restored = id := rfl

/-- A written cell is read back under the mask of its form. -/
theorem Field.scan_encode {form : Form} {field : Field} {stored : Value} {cell : Bytes}
    (h : field.encode form stored = .ok cell) (position : Nat) (rest : Bytes) (mask : UInt8) :
    field.scan form ⟨position, cell ++ rest, mask⟩ =
      .ok (form.restored stored) ⟨position + cell.length, rest, field.mask form⟩ := by
  cases form with
  | sortable =>
    have hread := Sortable.read_encode h position rest
    simpa [Field.scan, Scan.setMask, Field.mask, Bind.bind, EStateM.bind] using hread
  | compact =>
    have hshown : (⟨position, cell ++ rest, 0⟩ : Cursor).shown = cell ++ rest := by simp [Cursor.shown]
    have hread := Compact.yields_read h _ rest hshown
    simpa [Field.scan, Scan.setMask, Field.mask, Bind.bind, EStateM.bind, Cursor.advance] using hread

/-- A written cell is read back, and what is found goes through the adapter of the field. -/
theorem Field.read_encode {form : Form} {field : Field} {stored : Value} {cell : Bytes}
    (h : field.encode form stored = .ok cell) (position : Nat) (rest : Bytes) (mask : UInt8) :
    Reading.EndsWith (field.read form ⟨position, cell ++ rest, mask⟩)
      (field.logical (form.restored stored)) (position + cell.length) rest := by
  have hscan : field.scanning (field.scan form) ⟨position, cell ++ rest, mask⟩ =
      .ok (form.restored stored) ⟨position + cell.length, rest, field.mask form⟩ := by
    simp [Field.scanning, Field.scan_encode h]
  have hread : field.read form ⟨position, cell ++ rest, mask⟩ =
      Reading.ofExcept (field.logical (form.restored stored))
        ⟨position + cell.length, rest, field.mask form⟩ := by
    simp [Field.read, Bind.bind, EStateM.bind, hscan]
  rw [hread]
  exact Reading.endsWith_ofExcept _ _ _ _

/-- What is read back from a stored value can be stored. -/
theorem Field.Storable.restored {field : Field} {stored : Value} (h : field.Storable stored) :
    field.Storable stored.restored := by
  cases h with
  | missing hnullable => exact Storable.missing hnullable
  | present content => exact Storable.present _

/-! ## Runs -/

namespace Cells

/-- What stored values stand for: each goes through the adapter of its field, and the first refusal
counts. -/
def logical : List Field → List Value → Except Fault (List Value)
  | field :: fields, value :: stored => do
    let first ← field.logical value
    return first :: (← logical fields stored)
  | _, _ => .ok []

/-- A written run is read back, whatever is written behind it. -/
theorem read_encode {form : Form} {fields : List Field} {stored : List Value} {run : Bytes}
    (hlength : stored.length = fields.length) (h : encode form fields stored = .ok run)
    (position : Nat) (rest : Bytes) (mask : UInt8) :
    Reading.EndsWith (read form fields ⟨position, run ++ rest, mask⟩)
      (logical fields (stored.map form.restored)) (position + run.length) rest := by
  induction fields generalizing stored run position mask with
  | nil =>
    rcases encode_nil.mp h with rfl
    rcases List.length_eq_zero_iff.mp hlength with rfl
    exact ⟨mask, rfl⟩
  | cons field fields ih =>
    cases stored with
    | nil => cases hlength
    | cons value stored =>
      rcases encode_cons.mp h with ⟨cell, restRun, hcell, hrest, rfl⟩
      have hfirst := Field.read_encode hcell position (restRun ++ rest) mask
      rw [List.append_assoc, List.length_append, ← Nat.add_assoc]
      apply hfirst.bind
      intro found mask
      have hothers := ih (Nat.succ.inj hlength) hrest (position + cell.length) mask
      apply hothers.bind
      intro others mask
      exact ⟨mask, rfl⟩

/-- What is read back from a run has the same run. -/
theorem encode_restored {fields : List Field} {stored : List Value} {run : Bytes}
    (h : encode .sortable fields stored = .ok run) :
    encode .sortable fields (stored.map Value.restored) = .ok run := by
  induction fields generalizing stored run with
  | nil => exact encode_nil.mpr (encode_nil.mp h)
  | cons field fields ih =>
    cases stored with
    | nil => exact h
    | cons value stored =>
      rcases encode_cons.mp h with ⟨cell, rest, hcell, hrest, rfl⟩
      exact encode_cons.mpr ⟨cell, rest, Sortable.encode_restored hcell, ih hrest, rfl⟩

/-- What is read back from a run are the values, up to NaNs and equal decimals. -/
theorem restores {fields : List Field} {stored : List Value} {run : Bytes}
    (hlength : stored.length = fields.length) (h : encode .sortable fields stored = .ok run) :
    List.Forall₂ Value.Restores stored (stored.map Value.restored) := by
  induction fields generalizing stored run with
  | nil =>
    rcases List.length_eq_zero_iff.mp hlength with rfl
    exact List.Forall₂.nil
  | cons field fields ih =>
    cases stored with
    | nil => cases hlength
    | cons value stored =>
      rcases encode_cons.mp h with ⟨cell, rest, hcell, hrest, rfl⟩
      exact List.Forall₂.cons (Sortable.restores hcell) (ih (Nat.succ.inj hlength) hrest)

/-- Fields without adapters give stored values back as they are. -/
theorem logical_of_plain {fields : List Field} (hplain : ∀ field ∈ fields, field.property.adapter = none)
    {stored : List Value} (hlength : stored.length = fields.length) :
    logical fields stored = .ok stored := by
  induction fields generalizing stored with
  | nil =>
    rcases List.length_eq_zero_iff.mp hlength with rfl
    rfl
  | cons field fields ih =>
    cases stored with
    | nil => cases hlength
    | cons value stored =>
      have hfirst := Field.logical_of_plain (hplain field List.mem_cons_self) value
      have hothers := ih (fun next hnext => hplain next (List.mem_cons_of_mem _ hnext))
        (Nat.succ.inj hlength)
      simp [logical, hfirst, hothers, pure, Except.pure]

/-- Fields without adapters store what is read back from their stored values as it is. -/
theorem stored_restored {fields : List Field} (hplain : ∀ field ∈ fields, field.property.adapter = none)
    {values stored : List Value} (h : Cells.stored fields values = .ok stored) :
    Cells.stored fields (stored.map Value.restored) = .ok (stored.map Value.restored) := by
  induction fields generalizing values stored with
  | nil =>
    rcases Except.ok.inj ((stored_nil values).symm.trans h) with rfl
    rfl
  | cons field fields ih =>
    cases values with
    | nil =>
      rcases Except.ok.inj h with rfl
      rfl
    | cons value values =>
      rcases stored_cons.mp h with ⟨first, rest, hfirst, hrest, rfl⟩
      have hstorable := (Field.storable_of_stored hfirst).restored
      have hagain := Field.stored_of_storable (hplain field List.mem_cons_self) hstorable
      have hothers := ih (fun next hnext => hplain next (List.mem_cons_of_mem _ hnext)) hrest
      exact stored_cons.mpr ⟨_, _, hagain, hothers, rfl⟩

end Cells
end RecordBytes
