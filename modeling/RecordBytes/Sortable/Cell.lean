import RecordBytes.Sortable.Bigint
import RecordBytes.Sortable.Decimal
import RecordBytes.Sortable.Escaped
import RecordBytes.Sortable.SortOrder

/-!
# Sortable cells

The sortable form of one value: byte strings compare as the values do.  A value that may be missing has a
marker in front, zero for a missing value and one for a value that is there.  A form shows its own end, so
cells can be written one after another.

Main definitions:

- `Sortable.encode`, `Sortable.read`, `Sortable.skip`: writing, reading and passing over a cell.
- `Sortable.size`: the length of a cell, without writing it.
- `Sortable.fixedSize`, `Sortable.leastSize`: what is known of the length without the value.
- `Sortable.decode`: reading a cell from the front of some bytes.
-/

namespace RecordBytes.Sortable

/-- The marker of a missing value. -/
def nullMarker : UInt8 := 0

/-- The marker of a value that is there. -/
def presentMarker : UInt8 := 1

/-! ## Contents -/

/-- The sortable form of a content. -/
def encodeContent : (kind : Kind) → kind.Content → Except Refusal Bytes
  | .bool, content => .ok [if content then 1 else 0]
  | .char, content => .ok (BigEndian.ofNat 4 content.toNat)
  | .signed width, content => .ok (BigEndian.ofNat width.bytes (content ^^^ BitVec.intMin _).toNat)
  | .unsigned width, content => .ok (BigEndian.ofNat width.bytes content.toNat)
  | .float precision, content =>
    .ok (BigEndian.ofNat precision.bytes (Floating.sortable content).toNat)
  | .text, content => .ok (Escaped.encode (Utf8.encode content))
  | .bytes, content => .ok (Escaped.encode content)
  | .bigint, content => Bigint.encode content
  | .decimal, content => SortableDecimal.encode content
  | .lob, content => .ok (BigEndian.ofNat 8 content.toNat)

/-- The length of the sortable form of a content. -/
def contentSize : (kind : Kind) → kind.Content → Except Refusal Nat
  | .bool, _ => .ok 1
  | .char, _ => .ok 4
  | .signed width, _ => .ok width.bytes
  | .unsigned width, _ => .ok width.bytes
  | .float precision, _ => .ok precision.bytes
  | .text, content => .ok (Escaped.size (Utf8.encode content))
  | .bytes, content => .ok (Escaped.size content)
  | .bigint, content => .ok (4 + TwosComplement.size content)
  | .decimal, content => SortableDecimal.size content
  | .lob, _ => .ok 8

/-- Reads a content. -/
def readContent : (kind : Kind) → Scan kind.Content
  | .bool => do
    let byte ← Scan.byte Kind.bool.name
    if byte = 0 then return false
    else if byte = 1 then return true
    else throw (.boolByte byte)
  | .char => do
    let number ← Scan.number 4 Kind.char.name
    if number.isValidChar then return Char.ofNat number else throw (.charScalar number)
  | .signed width => do
    let number ← Scan.number width.bytes (Kind.signed width).name
    return BitVec.ofNat _ number ^^^ BitVec.intMin _
  | .unsigned width => do
    let number ← Scan.number width.bytes (Kind.unsigned width).name
    return BitVec.ofNat _ number
  | .float precision => do
    let number ← Scan.number precision.bytes (Kind.float precision).name
    return Floating.ofSortable (BitVec.ofNat _ number)
  | .text => do
    let bytes ← Escaped.read
    Scan.ofExcept ((Utf8.decode bytes).mapError .notText)
  | .bytes => Escaped.read
  | .bigint => Bigint.read
  | .decimal => SortableDecimal.read
  | .lob => do
    let number ← Scan.number 8 Kind.lob.name
    return BitVec.ofNat 64 number

/-- Passes over a content: bytes that only a content check would refuse are accepted. -/
def skipContent (kind : Kind) : Scan Unit :=
  match kind.width? with
  | some width => Scan.skip width kind.name
  | none =>
    match kind with
    | .bigint => Bigint.skip
    | .decimal => discard SortableDecimal.read
    | _ => Escaped.skip

/-! ## Cells -/

/-- The length of every cell of a kind, where it does not depend on the value: a missing value is a
marker alone. -/
def fixedSize (kind : Kind) (nullable : Bool) : Option Nat :=
  if nullable then none else kind.width?

/-- The least length of a cell of a kind. -/
def leastSize (kind : Kind) (nullable : Bool) : Nat :=
  if nullable then 1
  else
    match kind.width? with
    | some width => width
    | none =>
      match kind with
      | .bigint => 4
      | .decimal => 1
      | _ => 2

/-- The length of the cell of a value. -/
def size (kind : Kind) (nullable : Bool) (value : Value) : Except Refusal Nat :=
  match value with
  | .null => if nullable then .ok 1 else .error (.missing kind)
  | value =>
    match value.content? kind with
    | none => .error (.wrongKind kind value.typeName)
    | some content => do
      let size ← contentSize kind content
      return (if nullable then 1 else 0) + size

/-- The cell of a value before its order is applied. -/
def encodeUpward (kind : Kind) (nullable : Bool) (value : Value) : Except Refusal Bytes :=
  match value with
  | .null => if nullable then .ok [nullMarker] else .error (.missing kind)
  | value =>
    match value.content? kind with
    | none => .error (.wrongKind kind value.typeName)
    | some content => do
      let form ← encodeContent kind content
      return (if nullable then [presentMarker] else []) ++ form

/-- The cell of a value. -/
def encode (kind : Kind) (nullable : Bool) (order : SortOrder) (value : Value) :
    Except Refusal Bytes :=
  order.apply <$> encodeUpward kind nullable value

/-- Reads the marker of a value that may be missing: whether the value is there. -/
def readMarker : Scan Bool := do
  let marker ← Scan.byte "null marker"
  if marker = nullMarker then return false
  else if marker = presentMarker then return true
  else throw (.nullMarker marker)

/-- Reads the marker where the kind of cell has one; a cell without it has a value. -/
def readPresence (nullable : Bool) : Scan Bool :=
  if nullable then readMarker else pure true

/-- Reads a cell; the mask has to be the one of its order. -/
def read (kind : Kind) (nullable : Bool) : Scan Value := do
  if ← readPresence nullable then
    return .of kind (← readContent kind)
  else return .null

/-- Passes over a cell; the mask has to be the one of its order. -/
def skip (kind : Kind) (nullable : Bool) : Scan Unit := do
  if ← readPresence nullable then skipContent kind

/-- The value of the cell at the front of some bytes, and the number of bytes it takes. -/
def decode (kind : Kind) (nullable : Bool) (order : SortOrder) (bytes : Bytes) :
    Except Damage (Value × Nat) := do
  let (value, cursor) ← (read kind nullable).runOn bytes order.mask
  return (value, cursor.position)

end RecordBytes.Sortable
