import Mathlib
import RecordBytes.Proofs.Layout.Reading
import RecordBytes.Proofs.Slots.Reading
import RecordBytes.Proofs.Snapshot.Written

/-!
# Reading snapshots back

The states at the front of a snapshot tell which cells follow, so a snapshot is read back field by field:
an assigned property gets what was stored for it, through the adapter of its field, and any other one is
reset.  The states are put into slots of any number; those behind the last property stay as they are.

Main results:

- `SnapshotLayout.decodeInto_written`: the outcome of reading a snapshot back.
- `SnapshotLayout.decodeInto_encode`: what is then in the row and in the slots.
-/

namespace RecordBytes

open Outcome

/-! ## Values -/

/-- What becomes of a value that goes into a snapshot and comes back: an assigned one is stored and loaded,
any other one is reset. -/
def Field.reread (field : Field) (isAssigned : Bool) (value : Value) : Except Fault Value :=
  if isAssigned then do field.logical (← field.stored value) else field.zero

namespace SnapshotLayout

/-- What becomes of the values of the fields from an ordinal on, the first failure counting. -/
def rereadFrom (slots : Slots) (ordinal : Nat) :
    (fields : List Field) → (values : List Value) → Except Fault (List Value)
  | field :: fields, value :: values => do
    let first ← field.reread (slots.isAssigned ordinal) value
    return first :: (← rereadFrom slots (ordinal + 1) fields values)
  | _, _ => .ok []

/-- What becomes of a first value and of the others. -/
theorem rereadFrom_cons {slots : Slots} {ordinal : Nat} {field : Field} {fields : List Field} {value : Value}
    {values found : List Value} :
    rereadFrom slots ordinal (field :: fields) (value :: values) = .ok found ↔
      ∃ first rest, field.reread (slots.isAssigned ordinal) value = .ok first ∧
        rereadFrom slots (ordinal + 1) fields values = .ok rest ∧ first :: rest = found := by
  rw [rereadFrom]
  exact both_eq_ok

/-- All values come back when each one does. -/
theorem exists_rereadFrom {slots : Slots} {ordinal : Nat} {fields : List Field} {values : List Value}
    (hback : ∀ (index : Nat) (field : Field) (value : Value), fields[index]? = some field →
      values[index]? = some value →
        ∃ back, field.reread (slots.isAssigned (ordinal + index)) value = .ok back) :
    ∃ found, rereadFrom slots ordinal fields values = .ok found := by
  induction fields generalizing ordinal values with
  | nil => exact ⟨[], by simp [rereadFrom]⟩
  | cons field fields ih =>
    cases values with
    | nil => exact ⟨[], rfl⟩
    | cons value values =>
      rcases hback 0 field value rfl rfl with ⟨first, hfirst⟩
      have hothers : ∃ rest, rereadFrom slots (ordinal + 1) fields values = .ok rest := by
        apply ih
        intro index field' value' hfield hvalue
        rw [Nat.add_assoc, Nat.add_comm 1]
        exact hback (index + 1) field' value' hfield hvalue
      rcases hothers with ⟨rest, hrest⟩
      exact ⟨first :: rest, rereadFrom_cons.mpr ⟨first, rest, hfirst, hrest, rfl⟩⟩

/-- Without adapters, the fields from an ordinal on can be read back from their cells. -/
theorem CellsFrom.exists_rereadFrom {ordinal : Nat} {fields : List Field} {values : List Value} {run : Bytes}
    (h : CellsFrom slots ordinal fields values run)
    (hplain : ∀ field ∈ fields, field.property.adapter = none) :
    ∃ found, rereadFrom slots ordinal fields values = .ok found := by
  induction h with
  | nil => exact ⟨[], rfl⟩
  | @present ordinal field fields value stored values cell run hassigned hstored hcell hrest ih =>
    rcases ih fun next hnext => hplain next (List.mem_cons_of_mem _ hnext) with ⟨rest, hothers⟩
    have hfirst : field.reread (slots.isAssigned ordinal) value = .ok stored := by
      rw [hassigned, Field.reread, if_pos rfl, hstored, ok_bind,
        Field.logical_of_plain (hplain field List.mem_cons_self)]
    exact ⟨stored :: rest, rereadFrom_cons.mpr ⟨stored, rest, hfirst, hothers, rfl⟩⟩
  | @absent ordinal field fields value values run hunassigned hrest ih =>
    rcases ih fun next hnext => hplain next (List.mem_cons_of_mem _ hnext) with ⟨rest, hothers⟩
    have hzero := Field.zero_of_plain (hplain field List.mem_cons_self)
    have hfirst : field.reread (slots.isAssigned ordinal) value = .ok (field.property.type.zero field.nullable) := by
      rw [hunassigned, Field.reread, if_neg Bool.false_ne_true, hzero]
    exact ⟨_, rereadFrom_cons.mpr ⟨_, rest, hfirst, hothers, rfl⟩⟩

/-- Every value comes back at its index. -/
theorem getElem?_rereadFrom {slots : Slots} {ordinal : Nat} {fields : List Field} {values found : List Value}
    (h : rereadFrom slots ordinal fields values = .ok found) {index : Nat} {field : Field} {value : Value}
    (hfield : fields[index]? = some field) (hvalue : values[index]? = some value) :
    ∃ back, found[index]? = some back ∧
      field.reread (slots.isAssigned (ordinal + index)) value = .ok back := by
  induction fields generalizing ordinal values found index with
  | nil => simp at hfield
  | cons head fields ih =>
    cases values with
    | nil => simp at hvalue
    | cons first values =>
      rcases rereadFrom_cons.mp h with ⟨back, rest, hback, hrest, rfl⟩
      cases index with
      | zero =>
        cases hfield
        cases hvalue
        exact ⟨back, rfl, hback⟩
      | succ index =>
        have hothers := ih hrest hfield hvalue
        rwa [Nat.add_assoc, Nat.add_comm 1] at hothers

/-- As many values come back as there are. -/
theorem length_rereadFrom {slots : Slots} {ordinal : Nat} {fields : List Field} {values found : List Value}
    (h : rereadFrom slots ordinal fields values = .ok found) :
    found.length = min fields.length values.length := by
  induction fields generalizing ordinal values found with
  | nil =>
    have hfound : rereadFrom slots ordinal [] values = .ok [] := by simp [rereadFrom]
    rcases Except.ok.inj (hfound.symm.trans h) with rfl
    simp
  | cons field fields ih =>
    cases values with
    | nil =>
      rcases Except.ok.inj h with rfl
      simp
    | cons value values =>
      rcases rereadFrom_cons.mp h with ⟨first, rest, -, hrest, rfl⟩
      simp [ih hrest]

/-- An assigned field is read back from its cell through its adapter. -/
theorem readField_of_assigned {states : Slots} {ordinal : Nat} (h : states.isAssigned ordinal = true)
    {field : Field} {value stored : Value} {cell : Bytes} (hstored : field.stored value = .ok stored)
    (hcell : field.encode .compact stored = .ok cell) (position : Nat) (rest : Bytes) (mask : UInt8) :
    Reading.EndsWith (readField states field ordinal ⟨position, cell ++ rest, mask⟩)
      (field.reread true value) (position + cell.length) rest := by
  have hread := Field.read_encode hcell position rest mask
  have hreread : field.reread true value = field.logical stored := by simp [Field.reread, hstored]
  rw [Form.restored_compact, id_eq] at hread
  rwa [readField, if_pos h, hreread]

/-- A field that is not assigned is reset, without reading. -/
theorem readField_of_unassigned {states : Slots} {ordinal : Nat} (h : states.isAssigned ordinal = false)
    (field : Field) (value : Value) (position : Nat) (unread : Bytes) (mask : UInt8) :
    Reading.EndsWith (readField states field ordinal ⟨position, unread, mask⟩)
      (field.reread false value) position unread := by
  rw [readField, if_neg (by simp [h])]
  exact Reading.endsWith_ofExcept field.zero position unread mask

/-- The fields from an ordinal on are read back from their cells, by states under which the same ones are
assigned. -/
theorem readFrom_written {slots states : Slots} {ordinal : Nat} {fields : List Field} {values : List Value}
    {run : Bytes} (h : CellsFrom slots ordinal fields values run)
    (hsame : ∀ index < ordinal + fields.length, states.get index = slots.get index)
    (position : Nat) (rest : Bytes) (mask : UInt8) :
    Reading.EndsWith (readFrom states ordinal fields ⟨position, run ++ rest, mask⟩)
      (rereadFrom slots ordinal fields values) (position + run.length) rest := by
  induction h generalizing position mask with
  | nil => exact ⟨mask, rfl⟩
  | @present ordinal field fields value stored values cell run hassigned hstored hcell hrest ih =>
    have hstate : states.isAssigned ordinal = true := by
      rw [Slots.isAssigned, hsame ordinal (by simp)]
      exact hassigned
    have hfirst := readField_of_assigned hstate hstored hcell position (run ++ rest) mask
    rw [rereadFrom, hassigned, List.append_assoc, List.length_append, ← Nat.add_assoc]
    apply hfirst.bind
    intro found mask
    have hothers := ih (fun index hindex => hsame index (by simp; omega)) (position + cell.length) mask
    apply hothers.bind
    intro others mask
    exact ⟨mask, rfl⟩
  | @absent ordinal field fields value values run hunassigned hrest ih =>
    have hstate : states.isAssigned ordinal = false := by
      rw [Slots.isAssigned, hsame ordinal (by simp)]
      exact hunassigned
    have hfirst := readField_of_unassigned hstate field value position (run ++ rest) mask
    rw [rereadFrom, hunassigned]
    apply hfirst.bind
    intro found mask
    have hothers := ih (fun index hindex => hsame index (by simp; omega)) position mask
    apply hothers.bind
    intro others mask
    exact ⟨mask, rfl⟩

/-! ## Snapshots -/

/-- What a written snapshot holds: the states of its properties, and what becomes of the values. -/
theorem contents_written {layout : SnapshotLayout} {values : List Value} {slots : Slots} {bytes : Bytes}
    (h : layout.encode values slots = .ok bytes) :
    ∃ states : Slots, (∀ ordinal < layout.fields.length, states.get ordinal = slots.get ordinal) ∧
      layout.contents bytes =
        (rereadFrom slots 0 layout.fields values >>= fun found => pure (found, states)) := by
  rcases encode_eq_ok.mp h with ⟨-, run, hrun, rfl⟩
  rcases slots.ofBytes_toBytes layout.fields.length run with ⟨states, hstates, hsame⟩
  refine ⟨states, hsame, ?_⟩
  -- The same properties are assigned under the states that are read, so the cells are where they are sought.
  have hbody : slice? (slots.toBytes layout.fields.length ++ run) layout.stateSize
      (slots.toBytes layout.fields.length ++ run).length = some run := by
    rw [slice?_eq_some, List.take_length, stateSize, List.drop_left' (slots.length_toBytes _)]
    simp
  have hread : Reading.EndsWith (layout.readValues states (Cursor.start run 0))
      (rereadFrom slots 0 layout.fields values) (0 + run.length) [] := by
    have hfields := readFrom_written hrun (fun index hindex => hsame index (by omega)) 0 [] 0
    rw [List.append_nil] at hfields
    rw [← bind_pure (rereadFrom slots 0 layout.fields values)]
    apply hfields.bind
    intro found mask
    exact ⟨mask, rfl⟩
  rw [← hread.outcome_eq]
  simp only [contents, hstates, lift_damage_ok, ok_bind, hbody, inBounds]
  cases (layout.readValues states).runOn run with
  | ok found => rfl
  | error fault => rfl

/-- What comes of a snapshot that is read back into a row and slots: the values in the place of the row, and
the states in the first slots. -/
theorem decodeInto_written {layout : SnapshotLayout} {values : List Value} {slots : Slots} {bytes : Bytes}
    (h : layout.encode values slots = .ok bytes) {row : Row} (hrow : row.length = layout.fields.length)
    (target : Slots) :
    ∃ states : Slots, (∀ ordinal < layout.fields.length, states.get ordinal = slots.get ordinal) ∧
      layout.decodeInto bytes row target =
        (rereadFrom slots 0 layout.fields values >>= fun found =>
          pure (found, target.replaceFirst layout.fields.length states.get)) := by
  rcases contents_written h with ⟨states, hsame, hcontents⟩
  refine ⟨states, hsame, ?_⟩
  rw [decodeInto, if_neg (not_not.mpr hrow), hcontents]
  cases rereadFrom slots 0 layout.fields values with
  | ok found => rfl
  | error fault => rfl

/-- A snapshot is the states of all properties and the cells of the assigned ones, in order.  Read back into
a row and slots of any number, it replaces every value: an assigned one by what was stored for it, through
the adapter of its field, any other one by what the field is reset to.  Reading succeeds when the adapters do.
The first slots get the states of the snapshot, and those behind them stay as they are. -/
theorem decodeInto_encode {layout : SnapshotLayout} {values : List Value} {slots : Slots} {bytes : Bytes}
    (hencode : layout.encode values slots = .ok bytes) {row : Row} (hrow : row.length = layout.fields.length)
    (target : Slots) :
    (∃ states cells, bytes = states ++ cells.flatten ∧ states.length = (layout.fields.length + 3) / 4 ∧
      List.Forall₂ (CellAt layout.fields values)
        ((List.range layout.fields.length).filter slots.isAssigned) cells) ∧
    ((∀ (ordinal : Nat) (field : Field) (value : Value), layout.fields[ordinal]? = some field →
        values[ordinal]? = some value →
          ∃ back, field.reread (slots.isAssigned ordinal) value = .ok back) →
      ∃ found replaced, layout.decodeInto bytes row target = .ok (found, replaced) ∧
        found.length = layout.fields.length ∧
        (∀ (ordinal : Nat) (field : Field) (value : Value), layout.fields[ordinal]? = some field →
          values[ordinal]? = some value →
            ∃ back, found[ordinal]? = some back ∧
              field.reread (slots.isAssigned ordinal) value = .ok back) ∧
        (∀ ordinal < layout.fields.length, replaced.get ordinal = slots.get ordinal) ∧
        (∀ ordinal, layout.fields.length ≤ ordinal → replaced.get ordinal = target.get ordinal) ∧
        replaced.size = max target.size layout.fields.length) := by
  rcases encode_eq_ok.mp hencode with ⟨hlength, run, hrun, hbytes⟩
  constructor
  · rcases hrun.exists_cells with ⟨cells, rfl, hcells⟩
    simp only [Nat.zero_add] at hcells
    exact ⟨_, cells, hbytes.symm, slots.length_toBytes _, hcells⟩
  · intro hback
    rcases decodeInto_written hencode hrow target with ⟨states, hstates, hdecode⟩
    have hall : ∃ found, rereadFrom slots 0 layout.fields values = .ok found := by
      apply exists_rereadFrom
      simpa only [Nat.zero_add] using hback
    rcases hall with ⟨found, hfound⟩
    rw [hfound] at hdecode
    refine ⟨found, _, hdecode, ?_, ?_, ?_, ?_, ?_⟩
    · rw [length_rereadFrom hfound, hlength, Nat.min_self]
    · intro ordinal field value hfield hvalue
      have hfoundAt := getElem?_rereadFrom hfound hfield hvalue
      rwa [Nat.zero_add] at hfoundAt
    · intro ordinal hordinal
      rw [Slots.get_replaceFirst, if_pos hordinal, hstates ordinal hordinal]
    · intro ordinal hordinal
      rw [Slots.get_replaceFirst, if_neg hordinal.not_gt]
    · exact target.size_replaceFirst _ _

/-- A snapshot of a flag, a count and a label that may be missing. -/
def flagCountLabel : SnapshotLayout :=
  ⟨[Field.plain "flag" .bool false .unspecified, Field.plain "count" (.signed .w16) false .unspecified,
    Field.plain "label" .text true .unspecified]⟩

/-- A snapshot of two marks that may be missing. -/
def twoMarks : SnapshotLayout :=
  ⟨[Field.marked true .unspecified, Field.marked true .unspecified]⟩

/-- A snapshot with states of two properties only is read back into states of five, and one of two marks with the mark
that the adapter makes of the letter of the first. -/
theorem decodeInto_flagCountLabel :
    (∃ found replaced,
      flagCountLabel.decodeInto [3, 1] [.null, .null, .of .text "old"] ((Slots.empty 5).set 4 .clean) =
        .ok (found, replaced) ∧
      found.length = 3 ∧ found[0]? = some (.of .bool true) ∧ found[2]? = some .null ∧
      replaced.get 0 = .dirty ∧ replaced.get 4 = .clean ∧ replaced.size = 5) ∧
    ∃ found replaced,
      twoMarks.decodeInto [3, 1, 0, 0, 0, 121] [.null, .of .bool false] (Slots.empty 0) = .ok (found, replaced) ∧
      found[0]? = some (.of .bool true) ∧ found[1]? = some .null ∧ replaced.get 0 = .dirty := by
  constructor
  · have hencode : flagCountLabel.encode [.of .bool true, .null, .of .text "unread"]
        ((Slots.empty 2).set 0 .dirty) = .ok [3, 1] := by decide
    have hback : ∀ (ordinal : Nat) (field : Field) (value : Value),
        flagCountLabel.fields[ordinal]? = some field →
          ([.of .bool true, .null, .of .text "unread"] : List Value)[ordinal]? = some value →
            ∃ back, field.reread (((Slots.empty 2).set 0 .dirty).isAssigned ordinal) value = .ok back := by
      intro ordinal field value hfield hvalue
      have hordinal : ordinal < 3 := (List.getElem?_eq_some_iff.mp hfield).1
      interval_cases ordinal <;> cases hfield <;> cases hvalue <;> exact ⟨_, rfl⟩
    have hrow : ([.null, .null, .of .text "old"] : Row).length = flagCountLabel.fields.length := rfl
    rcases (decodeInto_encode hencode hrow ((Slots.empty 5).set 4 .clean)).2 hback with
      ⟨found, replaced, hdecode, hlength, hvalues, hfirst, hothers, hsize⟩
    rcases hvalues 0 _ _ rfl rfl with ⟨flag, hflag, hflagBack⟩
    rcases hvalues 2 _ _ rfl rfl with ⟨label, hlabel, hlabelBack⟩
    rcases Except.ok.inj hflagBack with rfl
    rcases Except.ok.inj hlabelBack with rfl
    exact ⟨found, replaced, hdecode, hlength, hflag, hlabel, hfirst 0 (by decide), hothers 4 (by decide), hsize⟩
  · have hencode : twoMarks.encode [.of .bool true, .null] ((Slots.empty 2).set 0 .dirty) =
        .ok [3, 1, 0, 0, 0, 121] := by decide
    have hback : ∀ (ordinal : Nat) (field : Field) (value : Value), twoMarks.fields[ordinal]? = some field →
        ([.of .bool true, .null] : List Value)[ordinal]? = some value →
          ∃ back, field.reread (((Slots.empty 2).set 0 .dirty).isAssigned ordinal) value = .ok back := by
      intro ordinal field value hfield hvalue
      have hordinal : ordinal < 2 := (List.getElem?_eq_some_iff.mp hfield).1
      interval_cases ordinal <;> cases hfield <;> cases hvalue <;> exact ⟨_, rfl⟩
    have hrow : ([.null, .of .bool false] : Row).length = twoMarks.fields.length := rfl
    rcases (decodeInto_encode hencode hrow (Slots.empty 0)).2 hback with
      ⟨found, replaced, hdecode, -, hvalues, hfirst, -, -⟩
    rcases hvalues 0 _ _ rfl rfl with ⟨given, hgiven, hgivenBack⟩
    rcases hvalues 1 _ _ rfl rfl with ⟨reset, hreset, hresetBack⟩
    cases hgivenBack
    cases hresetBack
    exact ⟨found, replaced, hdecode, hgiven, hreset, hfirst 0 (by decide)⟩

end SnapshotLayout
end RecordBytes
