import RecordBytes.Compact.Cell
import RecordBytes.Writing

/-!
# Writing compact cells into a buffer

A compact cell is written at the end of a buffer, piece by piece: the byte for a missing value or for one that is
there, the length, the payload.

Main definitions:

- `LengthPrefix.write`: a length, if it can be written.
- `Compact.write`: a whole cell.
-/

namespace RecordBytes

/-- Writes a length, if it can be written. -/
def LengthPrefix.write (length : Nat) : Writing :=
  Writing.putForm (encode length)

namespace Compact

/-- Writes bytes behind their length. -/
def writeWithLength (payload : Bytes) : Writing := do
  LengthPrefix.write payload.length
  Writing.put payload

/-- Writes a decimal, whose scale has to fit four bytes. -/
def writeDecimal (decimal : Decimal) : Writing :=
  let scale := decimal.scale.toInt
  if scale < -0x8000_0000 ∨ 0x8000_0000 ≤ scale then throw (.scaleOutOfRange scale)
  else do
    writeWithLength (TwosComplement.ofInt decimal.unscaled)
    Writing.put (BigEndian.ofNat 4 (BitVec.ofInt 32 scale).toNat)

/-- Writes a content. -/
def writeContent (kind : Kind) (content : kind.Content) : Writing :=
  match kind, content with
  | .text, content => writeWithLength (Utf8.encode content)
  | .bytes, content => writeWithLength content
  | .bigint, content => writeWithLength (TwosComplement.ofInt content)
  | .decimal, content => writeDecimal content
  | kind, content => Writing.putForm (encodeContent kind content)

/-- Writes the cell of a value.  The byte in front of a value that is there is written before the value is
looked at. -/
def write (kind : Kind) (nullable : Bool) (value : Value) : Writing :=
  match value with
  | .null =>
    if nullable then Writing.put [if kind.width?.isSome then absent else LengthPrefix.nullSentinel]
    else throw (.missing kind)
  | value => do
    if nullable && kind.width?.isSome then Writing.put [present]
    match value.content? kind with
    | none => throw (.wrongKind kind value.typeName)
    | some content => writeContent kind content

end Compact
end RecordBytes
