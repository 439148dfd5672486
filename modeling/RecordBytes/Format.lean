import RecordBytes.Bytes.Successor
import RecordBytes.Layout.Data
import RecordBytes.Layout.Key
import RecordBytes.Layout.Snapshot
import RecordBytes.Schema.Basic

/-!
# Record formats

A record format holds the three layouts of one record type and works on rows: the values of all properties
by ordinal.  Keys read and write the key ordinals of a row, data the others, snapshots all of them.

Main definitions:

- `RecordFormat.build`: the format of a schema, if every property can be stored.
- `RecordFormat.encodeKey`, `RecordFormat.decodeKey`: keys and parts of keys.
- `RecordFormat.encodeData`, `RecordFormat.decodeData`, `RecordFormat.decodeDataField`: data.
- `RecordFormat.encodeSnapshot`, `RecordFormat.decodeSnapshot`: snapshots.
- `RecordFormat.scanBounds`: the keys that share the leading values of a row.
-/

namespace RecordBytes

/-- The bytes reserved around keys and around data. -/
structure RecordPadding where
  key : Padding
  data : Padding
deriving DecidableEq, Repr, Hashable

/-- The layouts of one record type. -/
structure RecordFormat where
  typeName : String
  schema : Schema
  padding : RecordPadding
  key : KeyLayout
  data : DataLayout
  snapshot : SnapshotLayout

/-- A row with the values at some ordinals replaced, where it is long enough. -/
def Row.store? (row : Row) : List (Nat × Value) → Option Row
  | [] => some row
  | (ordinal, value) :: rest =>
    if ordinal < row.length then Row.store? (row.set ordinal value) rest else none

/-- The values of a row at some ordinals, where it is long enough. -/
def Row.select? (row : Row) (ordinals : List Nat) : Option (List Value) :=
  ordinals.mapM (row[·]?)

namespace RecordFormat

/-- The format of a schema.  The first property without a byte form is reported, key properties before the
others. -/
def build (typeName : String) (schema : Schema) (padding : RecordPadding) :
    Except Fault RecordFormat := do
  let keyFields ← schema.keyProperties.mapM Field.ofProperty
  let dataFields ← schema.dataProperties.mapM Field.ofProperty
  let allFields ← schema.properties.mapM Field.ofProperty
  return {
    typeName, schema, padding
    key := ⟨keyFields, padding.key⟩
    data := ⟨dataFields, padding.data⟩
    snapshot := ⟨allFields⟩ }

/-! ## Identity -/

/-- What identifies a format: the record type and the padding. -/
def identity (format : RecordFormat) : String × RecordPadding :=
  (format.typeName, format.padding)

instance : BEq RecordFormat where
  beq a b := a.identity == b.identity

instance : Hashable RecordFormat where
  hash format := hash format.identity

/-! ## Keys -/

/-- A row has to hold one value for each property. -/
def checkRow (format : RecordFormat) (row : Row) : Except Refusal Unit :=
  if row.length = format.schema.size then .ok ()
  else .error (.rowLength format.typeName format.schema.size row.length)

/-- The key of a row, or the part that bounds name. -/
def encodeKey (format : RecordFormat) (row : Row) (bounds : Bounds) : Except Fault Bytes := do
  format.checkRow row
  format.key.encode (← inBounds (Row.select? row format.schema.key)) bounds

/-- A row with the values of a key, or of the part that bounds name. -/
def decodeKey (format : RecordFormat) (bytes : Bytes) (bounds : Bounds) (row : Row) :
    Except Fault Row := do
  format.checkRow row
  let span ← format.key.resolve bounds
  let values ← format.key.decodeSpan bytes span
  let ordinals ← inBounds (span.of? format.schema.key)
  inBounds (Row.store? row (ordinals.zip values))

/-- The bounds of a scan over all keys that share the first `leading` key values of a row: the least such
key, and the least string above them all, if there is one.  Only one key shares all values, and its
successor is the string with a zero byte more. -/
def scanBounds (format : RecordFormat) (row : Row) (leading : Nat) :
    Except Fault (Bytes × Option Bytes) := do
  format.checkRow row
  let count := format.key.fields.length
  if count < leading then throw (.illegal (.tooManyLeading leading count))
  if leading = 0 then
    let start := List.replicate format.padding.key.before 0
    return (start, Bytes.successor? start)
  let start ← format.encodeKey row (Bounds.upTo leading)
  return (start, if leading = count then some (start ++ [0]) else Bytes.successor? start)

/-! ## Data -/

/-- The data of a row. -/
def encodeData (format : RecordFormat) (row : Row) (generation : Option Nat) :
    Except Fault Bytes := do
  format.checkRow row
  format.data.encode (← inBounds (Row.select? row format.schema.data)) generation

/-- A row with the values of data, or the generation of foreign data. -/
def decodeDataChecked (format : RecordFormat) (bytes : Bytes) (expected : Option Nat) (row : Row) :
    Except Fault (Outcome Row) := do
  format.checkRow row
  match ← format.data.decodeChecked bytes expected with
  | .current values =>
    return .current (← inBounds (Row.store? row (format.schema.data.zip values)))
  | .foreign generation => return .foreign generation

/-- What the host does with data of another generation: it is given the generation and all the bytes, and
works on its own state and on the row. -/
abbrev ForeignHandler (σ : Type) := Nat → Bytes → EStateM Fault (σ × Row) Unit

/-- Puts the values of data into a row.  Foreign data goes to the handler; without one it is damage. -/
def decodeData {σ : Type} (format : RecordFormat) (bytes : Bytes) (expected : Option Nat)
    (handler : Option (ForeignHandler σ)) : EStateM Fault (σ × Row) Unit := fun (host, row) =>
  match format.decodeDataChecked bytes expected row with
  | .error fault => .error fault (host, row)
  | .ok (.current row) => .ok () (host, row)
  | .ok (.foreign actual) =>
    match handler with
    | some handle => handle actual bytes (host, row)
    | none => .error (.corrupt (.generation (expected.getD 0) actual)) (host, row)

/-- The value of one property outside the key. -/
def decodeDataField (format : RecordFormat) (bytes : Bytes) (ordinal : Nat)
    (expected : Option Nat) : Except Fault Value :=
  match format.schema.data.idxOf? ordinal with
  | none => .error (.illegal (.notDataOrdinal ordinal))
  | some index => format.data.decodeField bytes expected index

/-! ## Snapshots -/

/-- The snapshot of a row. -/
def encodeSnapshot (format : RecordFormat) (row : Row) (slots : Slots) : Except Fault Bytes := do
  format.checkRow row
  format.snapshot.encode row slots

/-- A row and slots with the contents of a snapshot. -/
def decodeSnapshot (format : RecordFormat) (bytes : Bytes) (row : Row) (slots : Slots) :
    Except Fault (Row × Slots) := do
  format.checkRow row
  format.snapshot.decodeInto bytes row slots

end RecordFormat
end RecordBytes
