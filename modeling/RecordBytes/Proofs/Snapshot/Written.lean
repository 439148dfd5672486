import Mathlib
import RecordBytes.Layout.Snapshot
import RecordBytes.Proofs.Layout.Cells

/-!
# Written snapshots

A snapshot is the states of all properties, four to a byte, and then the compact cells of those properties
that are assigned, one after another in the order of their ordinals.  What the values of the others are does
not matter.

Main results:

- `SnapshotLayout.encode_eq_ok`: what is written for some values and states.
- `SnapshotLayout.CellsFrom.exists_cells`: the cells are those of the assigned ordinals, in order.
-/

namespace RecordBytes

open Outcome

namespace SnapshotLayout

/-- The cells of the assigned fields from an ordinal on, one after another. -/
inductive CellsFrom (slots : Slots) : (ordinal : Nat) → List Field → List Value → Bytes → Prop
  | nil {ordinal : Nat} : CellsFrom slots ordinal [] [] []
  | present {ordinal : Nat} {field : Field} {fields : List Field} {value stored : Value}
      {values : List Value} {cell run : Bytes} (hassigned : slots.isAssigned ordinal = true)
      (hstored : field.stored value = .ok stored) (hcell : field.encode .compact stored = .ok cell)
      (hrest : CellsFrom slots (ordinal + 1) fields values run) :
      CellsFrom slots ordinal (field :: fields) (value :: values) (cell ++ run)
  | absent {ordinal : Nat} {field : Field} {fields : List Field} {value : Value} {values : List Value}
      {run : Bytes} (hunassigned : slots.isAssigned ordinal = false)
      (hrest : CellsFrom slots (ordinal + 1) fields values run) :
      CellsFrom slots ordinal (field :: fields) (value :: values) run

/-- What is stored for a first value that is assigned, and for the others. -/
theorem storedFrom_of_assigned {slots : Slots} {ordinal : Nat} (h : slots.isAssigned ordinal = true)
    {field : Field} {fields : List Field} {value : Value} {values : List Value}
    {stored : List (Option Value)} :
    storedFrom slots ordinal (field :: fields) (value :: values) = .ok stored ↔
      ∃ first rest, field.stored value = .ok first ∧ storedFrom slots (ordinal + 1) fields values = .ok rest ∧
        some first :: rest = stored := by
  simp only [storedFrom, h, if_true, bind_eq_ok, map_eq_ok, pure_eq_ok]
  constructor
  · rintro ⟨_, ⟨first, hfirst, rfl⟩, rest, hrest, rfl⟩
    exact ⟨first, rest, hfirst, hrest, rfl⟩
  · rintro ⟨first, rest, hfirst, hrest, rfl⟩
    exact ⟨_, ⟨first, hfirst, rfl⟩, rest, hrest, rfl⟩

/-- Nothing is stored for a first value that is not assigned. -/
theorem storedFrom_of_unassigned {slots : Slots} {ordinal : Nat} (h : slots.isAssigned ordinal = false)
    {field : Field} {fields : List Field} {value : Value} {values : List Value}
    {stored : List (Option Value)} :
    storedFrom slots ordinal (field :: fields) (value :: values) = .ok stored ↔
      ∃ rest, storedFrom slots (ordinal + 1) fields values = .ok rest ∧ none :: rest = stored := by
  simp only [storedFrom, h, Bool.false_eq_true, if_false, bind_eq_ok, pure_eq_ok, Except.ok.injEq,
    exists_eq_left']

theorem present_some {field : Field} {fields : List Field} {value : Value} {stored : List (Option Value)} :
    present (field :: fields) (some value :: stored) = (field, value) :: present fields stored := rfl

/-- The cells are written when the assigned values can be stored and what is stored can be written. -/
theorem cellsFrom_iff {slots : Slots} {ordinal : Nat} {fields : List Field} {values : List Value}
    (hlength : values.length = fields.length) {run : Bytes} :
    CellsFrom slots ordinal fields values run ↔
      ∃ stored, storedFrom slots ordinal fields values = .ok stored ∧
        Cells.encode .compact ((present fields stored).map Prod.fst)
          ((present fields stored).map Prod.snd) = .ok run := by
  induction fields generalizing ordinal values run with
  | nil =>
    rcases List.length_eq_zero_iff.mp hlength with rfl
    constructor
    · rintro ⟨⟩
      exact ⟨[], rfl, rfl⟩
    · rintro ⟨stored, ⟨⟩, ⟨⟩⟩
      exact CellsFrom.nil
  | cons field fields ih =>
    rcases List.exists_cons_of_length_eq_add_one hlength with ⟨value, values, rfl⟩
    have hothers : values.length = fields.length := Nat.succ.inj hlength
    constructor
    · intro h
      cases h with
      | present hassigned hstored hcell hrest =>
        rcases (ih hothers).mp hrest with ⟨rest, hrestStored, hrestRun⟩
        refine ⟨_, (storedFrom_of_assigned hassigned).mpr ⟨_, rest, hstored, hrestStored, rfl⟩, ?_⟩
        rw [present_some]
        exact Cells.encode_cons.mpr ⟨_, _, hcell, hrestRun, rfl⟩
      | absent hunassigned hrest =>
        rcases (ih hothers).mp hrest with ⟨rest, hrestStored, hrestRun⟩
        exact ⟨_, (storedFrom_of_unassigned hunassigned).mpr ⟨rest, hrestStored, rfl⟩, hrestRun⟩
    · rintro ⟨stored, hstored, hrun⟩
      cases hassigned : slots.isAssigned ordinal with
      | true =>
        rcases (storedFrom_of_assigned hassigned).mp hstored with ⟨first, rest, hfirst, hrest, rfl⟩
        rw [present_some] at hrun
        rcases Cells.encode_cons.mp hrun with ⟨cell, restRun, hcell, hrestRun, rfl⟩
        exact CellsFrom.present hassigned hfirst hcell ((ih hothers).mpr ⟨rest, hrest, hrestRun⟩)
      | false =>
        rcases (storedFrom_of_unassigned hassigned).mp hstored with ⟨rest, hrest, rfl⟩
        exact CellsFrom.absent hassigned ((ih hothers).mpr ⟨rest, hrest, hrun⟩)

/-- A snapshot is written for as many values as there are fields when its cells are. -/
theorem encode_eq_ok {layout : SnapshotLayout} {values : List Value} {slots : Slots} {bytes : Bytes} :
    layout.encode values slots = .ok bytes ↔
      values.length = layout.fields.length ∧
        ∃ run, CellsFrom slots 0 layout.fields values run ∧
          slots.toBytes layout.fields.length ++ run = bytes := by
  unfold encode
  simp only [guard_eq_ok, bind_eq_ok, lift_refusal_eq_ok, not_not]
  constructor
  · intro h
    rcases h with ⟨hlength, stored, hstored, hbytes⟩
    rcases Run.encode_eq_ok.mp hbytes with ⟨run, hrun, rfl⟩
    exact ⟨hlength, run, (cellsFrom_iff hlength).mpr ⟨stored, hstored, hrun⟩, by simp [Padding.wrap]⟩
  · intro h
    rcases h with ⟨hlength, run, hrun, rfl⟩
    rcases (cellsFrom_iff hlength).mp hrun with ⟨stored, hstored, hcells⟩
    exact ⟨hlength, stored, hstored, Run.encode_eq_ok.mpr ⟨run, hcells, by simp [Padding.wrap]⟩⟩

/-- The compact cell of what the field at an index stores for the value there. -/
def CellAt (fields : List Field) (values : List Value) (index : Nat) (cell : Bytes) : Prop :=
  ∃ field value stored, fields[index]? = some field ∧ values[index]? = some value ∧
    field.stored value = .ok stored ∧ field.encode .compact stored = .ok cell

/-- The assigned ones of the indices behind the first are those of the others, counted from there. -/
theorem filter_range_succ (slots : Slots) (ordinal count : Nat) :
    (List.range (count + 1)).filter (fun index => slots.isAssigned (ordinal + index)) =
      (if slots.isAssigned ordinal then [0] else []) ++
        ((List.range count).filter fun index => slots.isAssigned (ordinal + 1 + index)).map (· + 1) := by
  have hnext : ((fun index => slots.isAssigned (ordinal + index)) ∘ Nat.succ) =
      fun index => slots.isAssigned (ordinal + 1 + index) := by
    funext index
    exact congrArg slots.isAssigned (by omega)
  rw [List.range_succ_eq_map, List.filter_cons, List.filter_map, hnext, Nat.add_zero]
  split <;> rfl

/-- The cells are those of the assigned ordinals, in order. -/
theorem CellsFrom.exists_cells {slots : Slots} {ordinal : Nat} {fields : List Field} {values : List Value}
    {run : Bytes} (h : CellsFrom slots ordinal fields values run) :
    ∃ cells, run = cells.flatten ∧
      List.Forall₂ (CellAt fields values)
        ((List.range fields.length).filter fun index => slots.isAssigned (ordinal + index)) cells := by
  induction h with
  | nil => exact ⟨[], rfl, List.Forall₂.nil⟩
  | @present ordinal field fields value stored values cell run hassigned hstored hcell hrest ih =>
    rcases ih with ⟨cells, rfl, hcells⟩
    refine ⟨cell :: cells, rfl, ?_⟩
    rw [List.length_cons, filter_range_succ, if_pos hassigned]
    refine List.Forall₂.cons ⟨field, value, stored, rfl, rfl, hstored, hcell⟩ ?_
    exact List.forall₂_map_left_iff.mpr hcells
  | @absent ordinal field fields value values run hunassigned hrest ih =>
    rcases ih with ⟨cells, rfl, hcells⟩
    refine ⟨cells, rfl, ?_⟩
    rw [List.length_cons, filter_range_succ, if_neg (by simp [hunassigned])]
    exact List.forall₂_map_left_iff.mpr hcells

end SnapshotLayout
end RecordBytes
