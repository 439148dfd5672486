import RecordBytes.Sortable.Cell
import RecordBytes.Writing

/-!
# Writing sortable cells into a buffer

A sortable cell is written at the end of a buffer, piece by piece.  A cell in descending order is complemented
as a whole once it is there, and the magnitude of a negative decimal is complemented inside it before that.

Main definitions:

- `Escaped.write`, `SortableDecimal.write`: contents that are written piece by piece.
- `Sortable.write`: a whole cell.
-/

namespace RecordBytes

/-- Writes a byte string byte by byte, a zero byte as zero and one, and the two zeros that end it. -/
def Escaped.write : Bytes → Writing
  | [] => do
    Writing.put [0]
    Writing.put [0]
  | byte :: rest => do
    if byte = 0 then
      Writing.put [0]
      Writing.put [1]
    else Writing.put [byte]
    write rest

namespace SortableDecimal

/-- Writes an exponent, digits raised by one, and the terminator. -/
def writeMagnitude (exponent : Int64) (digits : List Nat) : Writing := do
  Writing.put (BigEndian.ofNat 8 (exponentWord exponent).toNat)
  Writing.put (digits.map fun digit => UInt8.ofNat (digit + 1))
  Writing.put [0]

/-- Writes a decimal; what stands behind the marker is complemented in place for a negative one. -/
def write (decimal : Decimal) : Writing :=
  if decimal.unscaled = 0 then Writing.put [zeroMarker]
  else
    match decimal.exponent? with
    | none => throw .exponentOutOfRange
    | some exponent => do
      let magnitude := writeMagnitude exponent (Digits.significant decimal.unscaled.natAbs)
      if decimal.unscaled < 0 then
        Writing.put [negativeMarker]
        Writing.complemented magnitude
      else
        Writing.put [positiveMarker]
        magnitude

end SortableDecimal

/-- Writes an integer behind its header, if the header can tell its length. -/
def Bigint.write (number : Int) : Writing :=
  let form := TwosComplement.ofInt number
  if maxSize < form.length then throw .bigintTooLong
  else do
    Writing.put (BigEndian.ofNat 4 (header number form.length))
    Writing.put form

namespace Sortable

/-- Writes a content. -/
def writeContent (kind : Kind) (content : kind.Content) : Writing :=
  match kind, content with
  | .text, content => Escaped.write (Utf8.encode content)
  | .bytes, content => Escaped.write content
  | .bigint, content => Bigint.write content
  | .decimal, content => SortableDecimal.write content
  | kind, content => Writing.putForm (encodeContent kind content)

/-- Writes the cell of a value before its order is applied.  The marker of a value that is there is written
before the value is looked at. -/
def writeUpward (kind : Kind) (nullable : Bool) (value : Value) : Writing :=
  match value with
  | .null => if nullable then Writing.put [nullMarker] else throw (.missing kind)
  | value => do
    if nullable then Writing.put [presentMarker]
    match value.content? kind with
    | none => throw (.wrongKind kind value.typeName)
    | some content => writeContent kind content

/-- Writes the cell of a value; one that sorts downward is complemented in place. -/
def write (kind : Kind) (nullable : Bool) (order : SortOrder) (value : Value) : Writing :=
  if order.isDescending then Writing.complemented (writeUpward kind nullable value)
  else writeUpward kind nullable value

end Sortable
end RecordBytes
