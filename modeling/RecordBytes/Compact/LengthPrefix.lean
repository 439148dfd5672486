import RecordBytes.Cursor

/-!
# Lengths in front of payloads

The leading bits of the first byte tell how many bytes a length takes: seven bits of length in one byte,
fourteen in two, twenty-one in three, twenty-eight in four, and thirty-two in the four bytes behind a
marker.  A byte of 255 stands in place of a length where there is no payload.  Reading accepts a length in
more bytes than it needs.

Main results:

- `LengthPrefix.size`, `LengthPrefix.encode`, `LengthPrefix.read`: measuring, writing and reading.
- `LengthPrefix.length_encode`: the written form has the measured size.
-/

namespace RecordBytes.LengthPrefix

-- Powers of natural numbers are those of the core library, whatever else is imported.
attribute [local instance(2000)] instPowNat

/-- The byte that stands in place of a length where there is no payload. -/
def nullSentinel : UInt8 := 0xFF

/-- The marker in front of a length of four whole bytes. -/
def wideMarker : UInt8 := 0xF0

/-- The number of bytes that a length takes. -/
def size (length : Nat) : Except Refusal Nat :=
  if length < 0x80 then .ok 1
  else if length < 0x4000 then .ok 2
  else if length < 0x20_0000 then .ok 3
  else if length < 0x1000_0000 then .ok 4
  else if length < 0x1_0000_0000 then .ok 5
  else .error (.lengthTooLarge length)

/-- The written form of a length. -/
def encode (length : Nat) : Except Refusal Bytes :=
  if length < 0x80 then .ok (BigEndian.ofNat 1 length)
  else if length < 0x4000 then .ok (BigEndian.ofNat 2 (0x8000 + length))
  else if length < 0x20_0000 then .ok (BigEndian.ofNat 3 (0xC0_0000 + length))
  else if length < 0x1000_0000 then .ok (BigEndian.ofNat 4 (0xE000_0000 + length))
  else if length < 0x1_0000_0000 then .ok (wideMarker :: BigEndian.ofNat 4 length)
  else .error (.lengthTooLarge length)

/-- The written form of a length takes the measured number of bytes. -/
theorem length_encode (length : Nat) : (encode length).map List.length = size length := by
  unfold encode size
  repeat' split
  all_goals simp [Except.map]

/-- Reads the low-order bytes of a length below its high-order part. -/
def readTail (count high : Nat) : Scan (Option Nat) := do
  let low ← Scan.number count "length"
  return some (high * 256 ^ count + low)

/-- Reads a length; none where there is no payload. -/
def read : Scan (Option Nat) := do
  let first ← Scan.byte "length"
  if first < 0x80 then return some first.toNat
  else if first < 0xC0 then readTail 1 (first.toNat - 0x80)
  else if first < 0xE0 then readTail 2 (first.toNat - 0xC0)
  else if first < 0xF0 then readTail 3 (first.toNat - 0xE0)
  else if first = wideMarker then readTail 4 0
  else if first = nullSentinel then return none
  else throw (.lengthMarker first)

end RecordBytes.LengthPrefix
