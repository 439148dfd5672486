import RecordBytes.Layout.Cells
import RecordBytes.Slots

/-!
# Snapshots

A snapshot holds the assigned properties of an object: the states of all properties, four to a byte, and
the run of compact cells of those that have a value.  Reading resets the others.

Main definitions:

- `SnapshotLayout.encode`, `SnapshotLayout.decode`: a snapshot, and its values and states back.
- `SnapshotLayout.size`: the length of a snapshot, without writing it.
-/

namespace RecordBytes

/-- All fields of a record, by ordinal. -/
structure SnapshotLayout where
  fields : List Field

namespace SnapshotLayout

/-- The number of bytes that the states take. -/
def stateSize (layout : SnapshotLayout) : Nat :=
  Slots.byteCount layout.fields.length

/-- What is stored for the assigned values of the fields from an ordinal on; nothing for the others. -/
def storedFrom (slots : Slots) (ordinal : Nat) :
    (fields : List Field) → (values : List Value) → Except Fault (List (Option Value))
  | field :: fields, value :: values => do
    let first ← if slots.isAssigned ordinal then some <$> field.stored value else .ok none
    return first :: (← storedFrom slots (ordinal + 1) fields values)
  | _, _ => .ok []

/-- What is stored for the assigned values, by ordinal; nothing for the others. -/
def stored (layout : SnapshotLayout) (values : List Value) (slots : Slots) :
    Except Fault (List (Option Value)) :=
  storedFrom slots 0 layout.fields values

/-- The fields of some stored values, each with its value; fields without one are left out. -/
def present (fields : List Field) (stored : List (Option Value)) : List (Field × Value) :=
  (fields.zip stored).filterMap fun (field, value) => value.map (field, ·)

/-- The cells of the fields that have a stored value. -/
def run (form : Form) (cells : List (Field × Value)) : Run :=
  ⟨form, cells.map Prod.fst, ⟨0, 0⟩⟩

/-- The length of the states of all fields and the cells of those that have a stored value. -/
def sizeIn (form : Form) (fields : List Field) (stored : List (Option Value)) :
    Except Refusal Nat :=
  let cells := present fields stored
  (run form cells).size (Slots.byteCount fields.length) (cells.map Prod.snd)

/-- The length of a snapshot, for the stored values by ordinal. -/
def size (layout : SnapshotLayout) (stored : List (Option Value)) : Except Refusal Nat :=
  sizeIn .compact layout.fields stored

/-- The snapshot of some values, one for each field; those that are not assigned may be anything. -/
def encode (layout : SnapshotLayout) (values : List Value) (slots : Slots) :
    Except Fault Bytes := do
  if values.length ≠ layout.fields.length then
    throw (.illegal (.snapshotValueCount layout.fields.length values.length))
  let cells := present layout.fields (← layout.stored values slots)
  (run .compact cells).encode (slots.toBytes layout.fields.length) (cells.map Prod.snd)

/-- Reads the value of one field: its cell if it is assigned, its reset value if not. -/
def readField (slots : Slots) (field : Field) (ordinal : Nat) : Reading Value :=
  if slots.isAssigned ordinal then field.read .compact else Reading.ofExcept field.zero

/-- Reads the values of the fields from an ordinal on. -/
def readFrom (slots : Slots) (ordinal : Nat) : (fields : List Field) → Reading (List Value)
  | [] => pure []
  | field :: rest => do
    let first ← readField slots field ordinal
    return first :: (← readFrom slots (ordinal + 1) rest)

/-- Reads the values of all fields up to the end. -/
def readValues (layout : SnapshotLayout) (slots : Slots) : Reading (List Value) := do
  let values ← readFrom slots 0 layout.fields
  let remaining := (← get).remaining
  if remaining ≠ 0 then throw (.corrupt (.afterSnapshot remaining))
  return values

/-- The values and states of a snapshot. -/
def contents (layout : SnapshotLayout) (bytes : Bytes) : Except Fault (List Value × Slots) := do
  let slots ← Slots.ofBytes bytes layout.fields.length
  let body ← inBounds (slice? bytes layout.stateSize bytes.length)
  let (values, _) ← (layout.readValues slots).runOn body
  return (values, slots)

/-- Slots with the first `count` replaced by those of other slots. -/
def overwrite (slots other : Slots) (count : Nat) : Slots :=
  (List.range count).foldl (fun slots ordinal => slots.set ordinal (other.get ordinal)) slots

/-- A row and slots with the contents of a snapshot: every value is replaced, and the states of the
properties.  Nothing changes unless the whole snapshot can be read. -/
def decodeInto (layout : SnapshotLayout) (bytes : Bytes) (row : Row) (slots : Slots) :
    Except Fault (Row × Slots) := do
  if row.length ≠ layout.fields.length then
    throw (.illegal (.snapshotSlotCount layout.fields.length row.length))
  let (values, states) ← layout.contents bytes
  return (values, overwrite slots states layout.fields.length)

/-- The values and states of a snapshot, from blank ones. -/
def decode (layout : SnapshotLayout) (bytes : Bytes) : Except Fault (Row × Slots) :=
  layout.decodeInto bytes (List.replicate layout.fields.length .null)
    (Slots.empty layout.fields.length)

end SnapshotLayout
end RecordBytes
