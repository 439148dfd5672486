import RecordBytes.Cursor
import RecordBytes.Writing

/-!
# Generations of data

A generation is the number of the schema version that data was written with.  It takes one byte up to 127
and four bytes, with the top bit set, beyond; 2^31 - 1 is the largest.

Main definitions:

- `Generation.encode`, `Generation.read`: writing and reading.
- `Generation.write`: writing behind what is there.
- `Generation.size`: the number of bytes a generation takes.
-/

namespace RecordBytes.Generation

/-- The largest generation that can be written. -/
def max : Nat := 0x7FFF_FFFF

/-- A generation that can be written. -/
def check (generation : Nat) : Except Refusal Nat :=
  if max < generation then .error (.generationTooLarge generation) else .ok generation

/-- The number of bytes a generation takes. -/
def size (generation : Nat) : Nat :=
  if generation < 0x80 then 1 else 4

/-- The written form of a generation of at most 2^31 - 1. -/
def encode (generation : Nat) : Bytes :=
  if generation < 0x80 then BigEndian.ofNat 1 generation
  else BigEndian.ofNat 4 (0x8000_0000 + generation)

@[simp]
theorem length_encode (generation : Nat) : (encode generation).length = size generation := by
  unfold encode size
  split <;> simp

/-- Puts a generation of at most 2^31 - 1 behind what is there. -/
def write (generation : Nat) : Writing :=
  Writing.put (encode generation)

/-- Reads a generation. -/
def read : Scan Nat := do
  let first ← Scan.byte "generation"
  if first < 0x80 then return first.toNat
  else
    let rest ← Scan.number 3 "generation"
    return (first.toNat - 0x80) * 0x100_0000 + rest

end RecordBytes.Generation
