import RecordBytes.Bytes.TwosComplement
import RecordBytes.Compact.LengthPrefix

/-!
# Compact cells

The compact form of one value, where order does not matter.  A content of fixed width is its payload; where
it may be missing, a byte in front says whether it is there.  Any other payload has its length in front, and
a missing value is the byte that stands in place of a length.  A decimal's payload is its unscaled integer,
followed by four bytes of scale that the length does not count.

Main definitions:

- `Compact.encode`, `Compact.read`, `Compact.skip`: writing, reading and passing over a cell.
- `Compact.size`: the length of a cell, without writing it.
- `Compact.fixedSize`, `Compact.leastSize`: what is known of the length without the value.
- `Compact.decode`: reading a cell from the front of some bytes.
-/

namespace RecordBytes.Compact

/-- The byte that stands for a missing value of fixed width. -/
def absent : UInt8 := 0

/-- The byte in front of a value of fixed width that may be missing. -/
def present : UInt8 := 1

/-! ## Payloads -/

/-- Bytes behind their length. -/
def withLength (payload : Bytes) : Except Refusal Bytes := do
  return (← LengthPrefix.encode payload.length) ++ payload

/-- The length of bytes behind their length. -/
def sizeWithLength (length : Nat) : Except Refusal Nat := do
  return (← LengthPrefix.size length) + length

/-- The compact form of a decimal: its scale has to fit four bytes. -/
def encodeDecimal (decimal : Decimal) : Except Refusal Bytes := do
  let scale := decimal.scale.toInt
  if scale < -0x8000_0000 ∨ 0x8000_0000 ≤ scale then throw (.scaleOutOfRange scale)
  return (← withLength (TwosComplement.ofInt decimal.unscaled)) ++
    BigEndian.ofNat 4 (BitVec.ofInt 32 scale).toNat

/-- The compact form of a content. -/
def encodeContent : (kind : Kind) → kind.Content → Except Refusal Bytes
  | .bool, content => .ok [if content then 1 else 0]
  | .char, content => .ok (BigEndian.ofNat 4 content.toNat)
  | .signed width, content => .ok (BigEndian.ofNat width.bytes content.toNat)
  | .unsigned width, content => .ok (BigEndian.ofNat width.bytes content.toNat)
  | .float precision, content => .ok (BigEndian.ofNat precision.bytes content.toNat)
  | .text, content => withLength (Utf8.encode content)
  | .bytes, content => withLength content
  | .bigint, content => withLength (TwosComplement.ofInt content)
  | .decimal, content => encodeDecimal content
  | .lob, content => .ok (BigEndian.ofNat 8 content.toNat)

/-- The length of the compact form of a content. -/
def contentSize : (kind : Kind) → kind.Content → Except Refusal Nat
  | .bool, _ => .ok 1
  | .char, _ => .ok 4
  | .signed width, _ => .ok width.bytes
  | .unsigned width, _ => .ok width.bytes
  | .float precision, _ => .ok precision.bytes
  | .text, content => sizeWithLength (Utf8.encode content).length
  | .bytes, content => sizeWithLength content.length
  | .bigint, content => sizeWithLength (TwosComplement.size content)
  | .decimal, content => do
    return (← sizeWithLength (TwosComplement.size content.unscaled)) + 4
  | .lob, _ => .ok 8

/-- The content whose payload is given; the scale of a decimal is the last four bytes. -/
def ofPayload : (kind : Kind) → Bytes → Except Damage kind.Content
  | .bool, payload =>
    let number := BigEndian.toNat payload
    if number = 0 then .ok false
    else if number = 1 then .ok true
    else .error (.boolByte (UInt8.ofNat number))
  | .char, payload =>
    let number := BigEndian.toNat payload
    if number.isValidChar then .ok (Char.ofNat number) else .error (.charScalar number)
  | .signed _, payload => .ok (BitVec.ofNat _ (BigEndian.toNat payload))
  | .unsigned _, payload => .ok (BitVec.ofNat _ (BigEndian.toNat payload))
  | .float _, payload => .ok (BitVec.ofNat _ (BigEndian.toNat payload))
  | .text, payload => (Utf8.decode payload).mapError .notText
  | .bytes, payload => .ok payload
  | .bigint, payload => .ok (TwosComplement.toInt payload)
  | .decimal, payload =>
    let unscaled := payload.take (payload.length - 4)
    let scale := payload.drop (payload.length - 4)
    .ok ⟨TwosComplement.toInt unscaled, Int64.ofInt (TwosComplement.toInt scale)⟩
  | .lob, payload => .ok (BitVec.ofNat 64 (BigEndian.toNat payload))

/-- Reads a payload whose length was read before it. -/
def readPayload (kind : Kind) (length : Nat) : Scan Bytes := do
  let payload ← Scan.take length kind.name
  if kind = .decimal then return payload ++ (← Scan.take 4 "decimal scale")
  else return payload

/-- Passes over a payload whose length was read before it. -/
def skipPayload (kind : Kind) (length : Nat) : Scan Unit := do
  Scan.skip length kind.name
  if kind = .decimal then Scan.skip 4 "decimal scale"

/-! ## Cells -/

/-- The length of every cell of a kind, where it does not depend on the value. -/
def fixedSize (kind : Kind) (nullable : Bool) : Option Nat :=
  if nullable then none else kind.width?

/-- The least length of a cell of a kind. -/
def leastSize (kind : Kind) (nullable : Bool) : Nat :=
  if nullable then 1
  else
    match kind.width? with
    | some width => width
    | none => if kind = .decimal then 5 else 1

/-- The length of the cell of a value. -/
def size (kind : Kind) (nullable : Bool) (value : Value) : Except Refusal Nat :=
  match value with
  | .null => if nullable then .ok 1 else .error (.missing kind)
  | value =>
    match value.content? kind with
    | none => .error (.wrongKind kind value.typeName)
    | some content => do
      let size ← contentSize kind content
      return (if nullable && kind.width?.isSome then 1 else 0) + size

/-- The cell of a value. -/
def encode (kind : Kind) (nullable : Bool) (value : Value) : Except Refusal Bytes :=
  match value with
  | .null =>
    if nullable then .ok [if kind.width?.isSome then absent else LengthPrefix.nullSentinel]
    else .error (.missing kind)
  | value =>
    match value.content? kind with
    | none => .error (.wrongKind kind value.typeName)
    | some content => do
      let form ← encodeContent kind content
      return (if nullable && kind.width?.isSome then [present] else []) ++ form

/-- Reads the byte that says whether a value of fixed width is there; a cell without it has a value. -/
def readPresence (nullable : Bool) : Scan Bool := do
  if nullable then
    let byte ← Scan.byte "presence byte"
    if byte = absent then return false
    else if byte = present then return true
    else throw (.presenceByte byte)
  else return true

/-- The length of the payload of a cell, none for a missing value: fixed by the kind, or read from the
front of the cell. -/
def readLength (kind : Kind) (nullable : Bool) : Scan (Option Nat) :=
  match kind.width? with
  | some width => do
    return if ← readPresence nullable then some width else none
  | none => do
    match ← LengthPrefix.read with
    | some length => return some length
    | none => if nullable then return none else throw (.nullSentinel kind)

/-- Reads a cell. -/
def read (kind : Kind) (nullable : Bool) : Scan Value := do
  match ← readLength kind nullable with
  | none => return .null
  | some length =>
    let payload ← readPayload kind length
    return .of kind (← Scan.ofExcept (ofPayload kind payload))

/-- Passes over a cell: bytes that only a content check would refuse are accepted. -/
def skip (kind : Kind) (nullable : Bool) : Scan Unit := do
  match ← readLength kind nullable with
  | none => return ()
  | some length => skipPayload kind length

/-- The value of the cell at the front of some bytes, and the number of bytes it takes. -/
def decode (kind : Kind) (nullable : Bool) (bytes : Bytes) : Except Damage (Value × Nat) := do
  let (value, cursor) ← (read kind nullable).runOn bytes 0
  return (value, cursor.position)

end RecordBytes.Compact
