import Mathlib
import RecordBytes.Proofs.Cursor.Finds
import RecordBytes.Proofs.Format.Rows
import RecordBytes.Proofs.Key.Parts
import RecordBytes.Proofs.Slots.Reading

/-!
# Reading into a row in place

The readers of a format say what becomes of a row.  A host that owns the row works on it in place: it writes
one value after another, and what was written stays when a later step fails.  Since everything is read before
the first value is written, and every write of a built format succeeds, the outcome is the same.

Main definitions:

- `Row.write`: values written into a row one after another.
- `RecordFormat.loadKey`, `RecordFormat.loadData`, `RecordFormat.loadSnapshot`: the readers, step by step.

Main results:

- `RecordFormat.loadKey_eq`, `RecordFormat.loadData_eq`, `RecordFormat.loadSnapshot_eq`: a row that is worked
  on in place becomes what the readers say, or stays as it is.
-/

namespace RecordBytes

open Outcome

/-! ## Steps on a state -/

section Steps

variable {σ α : Type}

/-- A step that may fail and leaves the state alone. -/
def attempt (outcome : Except Fault α) : EStateM Fault σ α := fun state =>
  match outcome with
  | .ok found => .ok found state
  | .error fault => .error fault state

/-- A state that is replaced as a whole, or not at all. -/
def allOrNothing (state : σ) : Except Fault σ → EStateM.Result Fault σ Unit
  | .ok replaced => .ok () replaced
  | .error fault => .error fault state

theorem allOrNothing_eq_ok {state replaced : σ} {outcome : Except Fault σ} {found : Unit} :
    allOrNothing state outcome = .ok found replaced ↔ outcome = .ok replaced := by
  cases outcome with
  | ok given => simp [allOrNothing]
  | error fault => simp [allOrNothing]

/-- What is not replaced stays as it is. -/
theorem eq_of_allOrNothing_error {state after : σ} {outcome : Except Fault σ} {fault : Fault}
    (h : allOrNothing state outcome = .error fault after) : after = state := by
  cases outcome with
  | ok given => cases h
  | error refused =>
    cases h
    rfl

theorem attempt_bind_of_ok {β : Type} {outcome : Except Fault α} {found : α} (h : outcome = .ok found)
    (next : α → EStateM Fault σ β) (state : σ) : (attempt outcome >>= next) state = next found state := by
  subst h
  rfl

/-- Steps behind one that leaves the state alone replace it as a whole, or not at all, when they do so behind
what the step finds. -/
theorem attempt_bind_eq {outcome : Except Fault α} {next : α → EStateM Fault σ Unit}
    {rest : α → Except Fault σ} {state : σ}
    (h : ∀ found, outcome = .ok found → next found state = allOrNothing state (rest found)) :
    (attempt outcome >>= next) state = allOrNothing state (outcome >>= rest) := by
  cases houtcome : outcome with
  | ok found => exact h found houtcome
  | error fault => rfl

end Steps

/-! ## Writing into rows -/

namespace Row

/-- Writes values at ordinals of a row, one after another.  An ordinal that is not known, or not in the row, ends
the writing, and what was written before it stays. -/
def write : List (Option Nat × Value) → EStateM Fault Row Unit
  | [] => pure ()
  | (none, _) :: _ => throw .outOfBounds
  | (some ordinal, value) :: rest => fun row =>
    if ordinal < row.length then write rest (row.set ordinal value) else .error .outOfBounds row

/-- Where all values can be stored, they are written one after another. -/
theorem write_of_store? {row stored : Row} {ordinals : List Nat} {values : List Value}
    (h : Row.store? row (ordinals.zip values) = some stored) :
    write ((ordinals.map some).zip values) row = .ok () stored := by
  induction ordinals generalizing row values with
  | nil =>
    rcases Option.some.inj h with rfl
    rfl
  | cons ordinal ordinals ih =>
    cases values with
    | nil =>
      rcases Option.some.inj h with rfl
      rfl
    | cons value values =>
      rcases store?_cons.mp h with ⟨hlt, hrest⟩
      exact (if_pos hlt).trans (ih hrest)

end Row

/-- The items at the indices of a span that lies inside the list are those in the span. -/
theorem Span.map_indices {α : Type} {span : Span} {items : List α} (h : span.stop ≤ items.length) :
    span.indices.map (items[·]?) = (span.slice items).map some := by
  have hstart := span.start_le_stop
  apply List.ext_getElem?
  intro index
  simp only [indices, size, slice, List.map_map, List.getElem?_map, List.getElem?_drop, List.getElem?_take]
  by_cases hindex : index < span.stop - span.start
  · have hlt : span.start + index < span.stop := by omega
    have hin : span.start + index < items.length := by omega
    simp [hindex, hlt, hin]
  · have hge : ¬ span.start + index < span.stop := by omega
    simp [hindex, hge]

/-! ## Snapshots -/

namespace SnapshotLayout

/-- Writes values and states from an ordinal on, one after another, as far as the row reaches. -/
def writeFrom (states : Slots) (ordinal : Nat) : List Value → EStateM Fault (Row × Slots) Unit
  | [] => pure ()
  | value :: rest => fun (row, slots) =>
    if ordinal < row.length then
      writeFrom states (ordinal + 1) rest (row.set ordinal value, slots.set ordinal (states.get ordinal))
    else .ok () (row, slots)

/-- Puts the contents of a snapshot into a row and slots. -/
def loadInto (layout : SnapshotLayout) (bytes : Bytes) : EStateM Fault (Row × Slots) Unit := do
  let (row, _) ← get
  if row.length ≠ layout.fields.length then
    throw (.illegal (.snapshotSlotCount layout.fields.length row.length))
  let (values, states) ← attempt (layout.contents bytes)
  writeFrom states 0 values

/-- Values behind those that were written replace the others, and their states follow. -/
theorem writeFrom_append (states target : Slots) {done rest values : List Value}
    (h : values.length = rest.length) :
    writeFrom states done.length values (done ++ rest, target.replaceFirst done.length states.get) =
      .ok () (done ++ values, target.replaceFirst (done.length + values.length) states.get) := by
  induction values generalizing done rest with
  | nil =>
    rcases List.length_eq_zero_iff.mp h.symm with rfl
    rfl
  | cons value values ih =>
    rcases List.exists_cons_of_length_eq_add_one h.symm with ⟨first, rest, rfl⟩
    have hlt : done.length < (done ++ first :: rest).length := by simp
    have hset : (done ++ first :: rest).set done.length value = (done ++ [value]) ++ rest := by simp
    have hnext := @ih (done ++ [value]) rest (Nat.succ.inj h)
    rw [List.length_append, List.length_singleton, Slots.replaceFirst_succ] at hnext
    refine (if_pos hlt).trans ?_
    rw [hset, hnext, List.append_assoc, List.singleton_append, List.length_cons]
    simp only [Nat.add_assoc, Nat.add_comm 1]

theorem finds_length_readFrom (slots : Slots) (fields : List Field) (ordinal : Nat) :
    Finds (fun values => values.length = fields.length) (readFrom slots ordinal fields) := by
  induction fields generalizing ordinal with
  | nil => exact Finds.pure rfl
  | cons field fields ih =>
    refine Finds.bind (Finds.of_forall fun _ => trivial) ?_
    intro first _
    refine Finds.bind (ih (ordinal + 1)) ?_
    intro rest hrest
    exact Finds.pure (congrArg Nat.succ hrest)

/-- A snapshot holds a value for each field. -/
theorem length_contents {layout : SnapshotLayout} {bytes : Bytes} {values : List Value} {states : Slots}
    (h : layout.contents bytes = .ok (values, states)) : values.length = layout.fields.length := by
  simp only [contents, bind_eq_ok, pure_eq_ok, Prod.exists, Reading.runOn_eq_ok] at h
  rcases h with ⟨_, -, body, -, _, after, hread, ⟨⟩⟩
  have hupToEnd : layout.readValues states = (readFrom states 0 layout.fields).upToEnd .afterSnapshot := rfl
  rw [hupToEnd, Reading.upToEnd_eq_ok] at hread
  exact finds_length_readFrom states layout.fields 0 hread.1

/-- A row and slots that are worked on in place become what reading says, or stay as they are. -/
theorem loadInto_eq (layout : SnapshotLayout) (bytes : Bytes) (row : Row) (slots : Slots) :
    layout.loadInto bytes (row, slots) = allOrNothing (row, slots) (layout.decodeInto bytes row slots) := by
  unfold decodeInto
  by_cases hrow : row.length = layout.fields.length
  · rw [if_neg (not_not.mpr hrow)]
    have hload : layout.loadInto bytes (row, slots) =
        (attempt (layout.contents bytes) >>= fun found => writeFrom found.2 0 found.1) (row, slots) := by
      simp [loadInto, hrow, Bind.bind, EStateM.bind, MonadState.get, getThe, MonadStateOf.get, EStateM.get]
    rw [hload]
    apply attempt_bind_eq
    rintro ⟨values, states⟩ hcontents
    have hlength := length_contents hcontents
    have hwrite := @writeFrom_append states slots [] row values (hlength.trans hrow.symm)
    rw [List.length_nil, List.nil_append, List.nil_append, Nat.zero_add, hlength] at hwrite
    exact hwrite
  · rw [if_pos hrow]
    simp [loadInto, hrow, Bind.bind, EStateM.bind, MonadState.get, getThe, MonadStateOf.get, EStateM.get,
      throw, throwThe, MonadExceptOf.throw, EStateM.throw, allOrNothing, Except.bind]

end SnapshotLayout

/-! ## Formats -/

namespace RecordFormat

/-- Puts the values of a key, or of the part that bounds name, into a row. -/
def loadKey (format : RecordFormat) (bytes : Bytes) (bounds : Bounds) : EStateM Fault Row Unit := do
  let row ← get
  attempt (format.checkRow row)
  let span ← attempt (format.key.resolve bounds)
  let values ← attempt (format.key.decodeSpan bytes span)
  Row.write ((span.indices.map (format.schema.key[·]?)).zip values)

/-- A step on the row alone, beside the state of the host. -/
def onRow {σ : Type} (step : EStateM Fault Row Unit) : EStateM Fault (σ × Row) Unit := fun (host, row) =>
  match step row with
  | .ok found row => .ok found (host, row)
  | .error fault row => .error fault (host, row)

/-- Puts the values of data into a row, or leaves foreign data to the handler; without one it is damage. -/
def takeOutcome {σ : Type} (format : RecordFormat) (bytes : Bytes) (expected : Option Nat)
    (handler : Option (ForeignHandler σ)) : Outcome (List Value) → EStateM Fault (σ × Row) Unit
  | .current values => onRow (Row.write ((format.schema.data.map some).zip values))
  | .foreign actual =>
    match handler with
    | some handle => handle actual bytes
    | none => throw (.corrupt (.generation (expected.getD 0) actual))

/-- Puts data into a row.  Foreign data goes to the handler. -/
def loadData {σ : Type} (format : RecordFormat) (bytes : Bytes) (expected : Option Nat)
    (handler : Option (ForeignHandler σ)) : EStateM Fault (σ × Row) Unit := do
  let (_, row) ← get
  attempt (format.checkRow row)
  let outcome ← attempt (format.data.decodeChecked bytes expected)
  format.takeOutcome bytes expected handler outcome

/-- Puts the contents of a snapshot into a row and slots. -/
def loadSnapshot (format : RecordFormat) (bytes : Bytes) : EStateM Fault (Row × Slots) Unit := do
  let (row, _) ← get
  attempt (format.checkRow row)
  format.snapshot.loadInto bytes

variable {format : RecordFormat}

/-- A row that keys are read into in place becomes what reading says, or stays as it is. -/
theorem loadKey_eq (hkey : ∀ ordinal ∈ format.schema.key, ordinal < format.schema.size)
    (hfields : format.key.fields.length = format.schema.key.length) (bytes : Bytes) (bounds : Bounds)
    (row : Row) : format.loadKey bytes bounds row = allOrNothing row (format.decodeKey bytes bounds row) := by
  unfold decodeKey
  apply attempt_bind_eq
  intro _ hcheck
  rw [lift_refusal_eq_ok, checkRow_eq_ok] at hcheck
  apply attempt_bind_eq
  intro span hspan
  rw [lift_refusal_eq_ok] at hspan
  apply attempt_bind_eq
  intro values hvalues
  have hstop : span.stop ≤ format.schema.key.length := by
    rw [← hfields]
    exact KeyLayout.stop_le_of_resolve hspan
  have hordinals : span.of? format.schema.key = some (span.slice format.schema.key) :=
    Span.of?_eq_some.mpr ⟨hstop, rfl⟩
  have hin : ∀ ordinal ∈ span.slice format.schema.key, ordinal < row.length := by
    intro ordinal hordinal
    rw [hcheck]
    exact hkey ordinal (List.mem_of_mem_take (List.mem_of_mem_drop hordinal))
  rcases Row.exists_store? hin values with ⟨stored, hstored⟩
  rw [Span.map_indices hstop, Row.write_of_store? hstored, hordinals]
  simp [inBounds, hstored, allOrNothing]

/-- A row that data is read into in place becomes what reading says, or stays as it is. -/
theorem loadData_eq (hdata : ∀ ordinal ∈ format.schema.data, ordinal < format.schema.size) {σ : Type}
    (bytes : Bytes) (expected : Option Nat) (handler : Option (ForeignHandler σ)) (host : σ) (row : Row) :
    format.loadData bytes expected handler (host, row) =
      format.decodeData bytes expected handler (host, row) := by
  have hload : format.loadData bytes expected handler (host, row) =
      (attempt (liftM (format.checkRow row)) >>= fun _ =>
        attempt (format.data.decodeChecked bytes expected) >>=
          format.takeOutcome bytes expected handler) (host, row) := rfl
  rw [hload]
  unfold decodeData decodeDataChecked
  dsimp only
  cases hcheck : (liftM (format.checkRow row) : Except Fault Unit) with
  | error fault => rfl
  | ok _ =>
    rw [attempt_bind_of_ok rfl, ok_bind]
    cases hchecked : format.data.decodeChecked bytes expected with
    | error fault => rfl
    | ok outcome =>
      rw [attempt_bind_of_ok rfl, ok_bind]
      cases outcome with
      | foreign actual => cases handler <;> rfl
      | current values =>
        rw [lift_refusal_eq_ok, checkRow_eq_ok] at hcheck
        have hin : ∀ ordinal ∈ format.schema.data, ordinal < row.length := by rwa [hcheck]
        rcases Row.exists_store? hin values with ⟨stored, hstored⟩
        simp [takeOutcome, onRow, Row.write_of_store? hstored, hstored, inBounds, pure, Except.pure]

/-- A row and slots that snapshots are read into in place become what reading says, or stay as they are. -/
theorem loadSnapshot_eq (bytes : Bytes) (row : Row) (slots : Slots) :
    format.loadSnapshot bytes (row, slots) =
      allOrNothing (row, slots) (format.decodeSnapshot bytes row slots) := by
  unfold decodeSnapshot
  apply attempt_bind_eq
  intro _ _
  exact format.snapshot.loadInto_eq bytes row slots

end RecordFormat
end RecordBytes
