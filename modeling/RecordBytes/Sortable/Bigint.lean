import RecordBytes.Bytes.TwosComplement
import RecordBytes.Cursor

/-!
# Sortable integers of any size

An integer is its shortest two's-complement form behind a header of four bytes.  The header is above 2^31
by the length for an integer that is not negative and below it for a negative one, so integers of
different lengths are ordered by the header and integers of one length by their bytes.

Main definitions:

- `Bigint.encode`, `Bigint.read`, `Bigint.skip`: writing, reading and passing over.
-/

namespace RecordBytes.Bigint

/-- The longest form whose length a header can tell. -/
def maxSize : Nat := 0x7FFF_FFFF

/-- The header of an integer whose form takes `size` bytes. -/
def header (number : Int) (size : Nat) : Nat :=
  if number < 0 then maxSize - size else 0x8000_0000 + size

/-- The sortable form of an integer. -/
def encode (number : Int) : Except Refusal Bytes :=
  let size := TwosComplement.size number
  if maxSize < size then .error .bigintTooLong
  else .ok (BigEndian.ofNat 4 (header number size) ++ TwosComplement.ofInt number)

/-- Reads a header: whether the integer is negative, and how many bytes follow. -/
def readHeader : Scan (Bool × Nat) := do
  let header ← Scan.number 4 "big integer header"
  return if 0x8000_0000 ≤ header then (false, header - 0x8000_0000) else (true, maxSize - header)

/-- Reads an integer, whose sign has to be the one its header tells. -/
def read : Scan Int := do
  let (negative, size) ← readHeader
  let number := TwosComplement.toInt (← Scan.take size "big integer")
  if negative ≠ decide (number < 0) then throw .bigintSign
  return number

/-- Passes over an integer. -/
def skip : Scan Unit := do
  let (_, size) ← readHeader
  Scan.skip size "big integer"

end RecordBytes.Bigint
