import RecordBytes.Compact.Cell
import RecordBytes.Schema.Property
import RecordBytes.Sortable.Cell

/-!
# Fields

A field is a property whose storage type has a byte form.  It checks the values that go into storage,
converts the values that come back, and writes and reads its cell in either form.

Main definitions:

- `Field.ofProperty`: the field of a property, if its storage type has a byte form.
- `Field.stored`, `Field.logical`: a value on its way into storage and back.
- `Field.zero`: what the property is reset to.
- `Field.encode`, `Field.read`, `Field.skip`, `Field.size`: the field's cell in a given form.
-/

namespace RecordBytes

/-- The two byte forms of a cell. -/
inductive Form
  | sortable
  | compact
deriving DecidableEq, Repr

/-- A property together with the kind that it is stored as. -/
structure Field where
  property : Property
  kind : Kind
  storage_eq : property.storage = .plain kind

/-- A step of reading that may also fail in host code. -/
abbrev Reading (α : Type) := EStateM Fault Cursor α

/-- The outcome of reading from the start of some bytes, with the cursor it ends at. -/
def Reading.runOn {α : Type} (reading : Reading α) (bytes : Bytes) : Except Fault (α × Cursor) :=
  match reading (Cursor.start bytes 0) with
  | .ok found cursor => .ok (found, cursor)
  | .error fault _ => .error fault

/-- A scan as a step of reading. -/
def Reading.ofScan {α : Type} (scan : Scan α) : Reading α := fun cursor =>
  match scan cursor with
  | .ok found after => .ok found after
  | .error damage after => .error (.corrupt damage) after

/-- An outcome that needs no reading. -/
def Reading.ofExcept {α : Type} : Except Fault α → Reading α
  | .ok found => pure found
  | .error fault => throw fault

namespace Field

/-- The field of a property; a property stored as a custom type has none. -/
def ofProperty (property : Property) : Except Fault Field :=
  match h : property.storage with
  | .plain kind => .ok ⟨property, kind, h⟩
  | .custom name => .error (.unsupportedType property.name name)

/-- The name of the property. -/
def name (field : Field) : String := field.property.name

/-- Whether a missing value is allowed. -/
def nullable (field : Field) : Bool := field.property.nullable

/-- The order in which the field sorts in a key. -/
def order (field : Field) : SortOrder := field.property.order

/-- What the property is reset to.  One of a custom type that may not be missing takes the zero of its
storage type, as the adapter loads it. -/
def zero (field : Field) : Except Fault Value :=
  match field.property.type, field.property.adapter with
  | .custom name, some adapter =>
    if field.nullable then .ok ((PropertyType.custom name).zero true)
    else adapter.load (adapter.storage.zero false)
  | type, _ => .ok (type.zero field.nullable)

/-- A value as the adapter stores it; a missing value is not converted. -/
def convert (field : Field) (value : Value) : Except Fault Value :=
  match field.property.adapter with
  | some adapter => if value.isNull then .ok value else adapter.store value
  | none => .ok value

/-- A stored value that the field can write: missing where that is allowed, or of the field's kind. -/
def check (field : Field) (stored : Value) : Except Refusal Value :=
  if stored.isNull then
    if field.nullable then .ok stored else .error (.notNullable field.name)
  else if field.kind.accepts stored then .ok stored
  else .error (.unexpectedType field.name field.kind.name stored.typeName stored)

/-- What is stored for a value. -/
def stored (field : Field) (value : Value) : Except Fault Value := do
  field.check (← field.convert value)

/-- The value that a stored one stands for; a missing value is not converted. -/
def logical (field : Field) (stored : Value) : Except Fault Value :=
  match field.property.adapter with
  | some adapter => if stored.isNull then .ok stored else adapter.load stored
  | none => .ok stored

/-! ## Cells -/

/-- The length of every cell of the field, where it does not depend on the value. -/
def fixedSize (form : Form) (field : Field) : Option Nat :=
  match form with
  | .sortable => Sortable.fixedSize field.kind field.nullable
  | .compact => Compact.fixedSize field.kind field.nullable

/-- The least length of a cell of the field. -/
def leastSize (form : Form) (field : Field) : Nat :=
  match form with
  | .sortable => Sortable.leastSize field.kind field.nullable
  | .compact => Compact.leastSize field.kind field.nullable

/-- The length of the cell of a stored value. -/
def size (form : Form) (field : Field) (stored : Value) : Except Refusal Nat :=
  match form with
  | .sortable => Sortable.size field.kind field.nullable stored
  | .compact => Compact.size field.kind field.nullable stored

/-- The cell of a stored value. -/
def encode (form : Form) (field : Field) (stored : Value) : Except Refusal Bytes :=
  match form with
  | .sortable => Sortable.encode field.kind field.nullable field.order stored
  | .compact => Compact.encode field.kind field.nullable stored

/-- The mask under which a cell of the field is read. -/
def mask (form : Form) (field : Field) : UInt8 :=
  match form with
  | .sortable => field.order.mask
  | .compact => 0

/-- Damage that is found in the field's cell. -/
def scanning {α : Type} (field : Field) (scan : Scan α) : Reading α := fun cursor =>
  match scan cursor with
  | .ok found after => .ok found after
  | .error damage after => .error (.corrupt (.inProperty field.name damage)) after

/-- Reads the stored value in the field's cell. -/
def scan (form : Form) (field : Field) : Scan Value := do
  Scan.setMask (field.mask form)
  match form with
  | .sortable => Sortable.read field.kind field.nullable
  | .compact => Compact.read field.kind field.nullable

/-- Reads the field's cell and converts what it holds. -/
def read (form : Form) (field : Field) : Reading Value := do
  let stored ← field.scanning (field.scan form)
  Reading.ofExcept (field.logical stored)

/-- Passes over the field's cell. -/
def skip (form : Form) (field : Field) : Reading Unit :=
  field.scanning do
    Scan.setMask (field.mask form)
    match form with
    | .sortable => Sortable.skip field.kind field.nullable
    | .compact => Compact.skip field.kind field.nullable

end Field
end RecordBytes
