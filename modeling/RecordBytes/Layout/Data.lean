import RecordBytes.Generation
import RecordBytes.Layout.Bare
import RecordBytes.Layout.Cells

/-!
# Data

The data of a record is an optional generation and the run of compact cells of the fields outside the key,
between its padding.  A reader that expects a generation looks at it before anything else, and does not
read data of another one.  The data of a single byte array is bare.

Main definitions:

- `DataLayout.encode`, `DataLayout.decode`: data and its values back.
- `DataLayout.decodeChecked`: the values, or the generation of foreign data.
- `DataLayout.decodeField`: the value of one field.
- `DataLayout.peekGeneration`: the generation at the front.
-/

namespace RecordBytes

/-- The fields outside the key, and the bytes reserved around data. -/
structure DataLayout where
  fields : List Field
  padding : Padding

/-- What becomes of data when a generation is expected. -/
inductive Outcome (α : Type)
  /-- The data was of the expected generation, or none was expected. -/
  | current (found : α)
  /-- The data is of another generation and was not read. -/
  | foreign (generation : Nat)
deriving DecidableEq

namespace DataLayout

/-- The field of data that is one bare byte array. -/
def bare? (layout : DataLayout) : Option Field :=
  match layout.fields with
  | [field] => if field.kind = .bytes then some field else none
  | _ => none

/-- The cells of all fields with the padding. -/
def run (layout : DataLayout) : Run :=
  ⟨.compact, layout.fields, layout.padding⟩

/-- The least length of data without a generation. -/
def leastSize (layout : DataLayout) : Nat :=
  match layout.bare? with
  | some field => layout.padding.before + Bare.leastSize field.nullable + layout.padding.after
  | none => layout.run.leastSize

/-- The length that is asked for before data is read: one byte more where a generation is expected. -/
def leastSizeWith (layout : DataLayout) (expected : Option Nat) : Nat :=
  layout.leastSize + if expected.isSome then 1 else 0

@[simp]
theorem leastSizeWith_none (layout : DataLayout) : layout.leastSizeWith none = layout.leastSize := rfl

@[simp]
theorem leastSizeWith_some (layout : DataLayout) (expected : Nat) :
    layout.leastSizeWith (some expected) = layout.leastSize + 1 := rfl

/-- The data of some values, one for each field. -/
def encode (layout : DataLayout) (values : List Value) (generation : Option Nat) :
    Except Fault Bytes := do
  if values.length ≠ layout.fields.length then
    throw (.illegal (.dataValueCount layout.fields.length values.length))
  let tag ← match generation with
    | some number => pure (Generation.encode (← Generation.check number))
    | none => pure []
  let stored ← Cells.stored layout.fields values
  match layout.bare? with
  | some field =>
    return layout.padding.wrap (tag ++ stored.flatMap (Bare.encode field.nullable))
  | none => layout.run.encode tag stored

/-- The generation at the front of data. -/
def peekGeneration (layout : DataLayout) (bytes : Bytes) : Except Damage Nat := do
  let (generation, _) ← Generation.read.runOn (bytes.drop layout.padding.before) 0
  return generation

/-- What stands between the padding, where the bytes have the least length. -/
def body (layout : DataLayout) (bytes : Bytes) (expected : Option Nat) : Except Fault Bytes :=
  let needed := layout.leastSizeWith expected
  if bytes.length < needed then .error (.corrupt (.dataTooShort needed bytes.length))
  else inBounds (layout.padding.strip? bytes)

/-- Reads the generation where one is expected; yields it if it is another one. -/
def readForeign (expected : Option Nat) : Reading (Option Nat) :=
  match expected with
  | none => pure none
  | some expected => do
    let actual ← Reading.ofScan Generation.read
    return if actual = expected then none else some actual

/-- Reads the rest of the body as a bare byte array. -/
def readBare (field : Field) : Reading Value := fun cursor =>
  match Bare.decode field.nullable .barePresenceByte cursor.unread with
  | .ok stored => Reading.ofExcept (field.logical stored) cursor
  | .error damage => .error (.corrupt damage) cursor

/-- Reads the cells up to the end of the body. -/
def readCells (layout : DataLayout) : Reading (List Value) := do
  let values ← Cells.read .compact layout.fields
  let remaining := (← get).remaining
  if remaining ≠ 0 then throw (.corrupt (.afterData remaining))
  return values

/-- Reads the values of all fields up to the end of the body. -/
def readValues (layout : DataLayout) : Reading (List Value) :=
  match layout.bare? with
  | some field => do return [← readBare field]
  | none => layout.readCells

/-- Reads a body behind its generation: what `inner` reads, unless the generation is another one. -/
def readBehind {α : Type} (expected : Option Nat) (inner : Reading α) : Reading (Outcome α) := do
  match ← readForeign expected with
  | some generation => return .foreign generation
  | none => return .current (← inner)

/-- The values of data, or the generation of data that is not of the expected one. -/
def decodeChecked (layout : DataLayout) (bytes : Bytes) (expected : Option Nat) :
    Except Fault (Outcome (List Value)) := do
  let body ← layout.body bytes expected
  let (outcome, _) ← (readBehind expected layout.readValues).runOn body
  return outcome

/-- What was found in data of the expected generation; data of another one is damage. -/
def currentOnly {α : Type} (expected : Option Nat) : Outcome α → Except Fault α
  | .current found => .ok found
  | .foreign actual => .error (.corrupt (.generation (expected.getD 0) actual))

/-- The values of data. -/
def decode (layout : DataLayout) (bytes : Bytes) (expected : Option Nat) :
    Except Fault (List Value) := do
  currentOnly expected (← layout.decodeChecked bytes expected)

/-- Reads the value of the field at an index: the cells before it are passed over, and those after it are
not looked at. -/
def readField (layout : DataLayout) (index : Nat) (field : Field) : Reading Value :=
  match layout.bare? with
  | some field => readBare field
  | none => do
    Cells.skip .compact (layout.fields.take index)
    field.read .compact

/-- The value of the field at an index. -/
def decodeField (layout : DataLayout) (bytes : Bytes) (expected : Option Nat) (index : Nat) :
    Except Fault Value :=
  match layout.fields[index]? with
  | none => .error (.illegal (.noDataField index layout.fields.length))
  | some field => do
    let body ← layout.body bytes expected
    let (outcome, _) ← (readBehind expected (layout.readField index field)).runOn body
    currentOnly expected outcome

end DataLayout
end RecordBytes
