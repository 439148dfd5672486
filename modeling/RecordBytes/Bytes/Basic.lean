/-!
# Byte strings

Main definitions:

- `Bytes`: a byte string as a list, first byte first.
- `Bytes.complement`: every bit of every byte flipped, which reverses the order of strings of one length.
-/

namespace RecordBytes

/-- A byte string, first byte first. -/
abbrev Bytes := List UInt8

namespace Bytes

/-- Every bit of every byte flipped. -/
def complement (bytes : Bytes) : Bytes :=
  bytes.map (~~~ ·)

@[simp]
theorem length_complement (bytes : Bytes) : bytes.complement.length = bytes.length := by
  simp [complement]

@[simp]
theorem complement_append (left right : Bytes) :
    Bytes.complement (left ++ right) = left.complement ++ right.complement := by
  simp [complement]

/-- Flipping twice changes nothing. -/
@[simp]
theorem complement_complement (bytes : Bytes) : bytes.complement.complement = bytes := by
  simp [complement, Function.comp_def]

/-- The full mask flips every bit. -/
theorem xor_full (byte : UInt8) : byte ^^^ 0xFF = ~~~byte := by
  have hmask : (0xFF : UInt8) = ~~~0 := rfl
  rw [hmask, UInt8.xor_not, UInt8.xor_zero]

end Bytes
end RecordBytes
