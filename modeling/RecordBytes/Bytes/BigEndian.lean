import RecordBytes.Bytes.Basic

/-!
# Big-endian numbers

This module writes a natural number on a fixed number of bytes, most significant byte first, and reads
such a string back.

Main results:

- `BigEndian.length_ofNat`: a number takes exactly the bytes it was given.
- `BigEndian.toNat_ofNat`: reading returns the number modulo 256 to the width.
- `BigEndian.ofNat_toNat`: every byte string is the form of the number it reads as.
-/

namespace RecordBytes.BigEndian

-- Powers of natural numbers are those of the core library, whatever else is imported.
attribute [local instance(2000)] instPowNat

/-- The low-order `width` bytes of a number, most significant byte first. -/
def ofNat : (width : Nat) → Nat → Bytes
  | 0, _ => []
  | width + 1, number => UInt8.ofNat (number / 256 ^ width) :: ofNat width number

/-- The number that a byte string spells, most significant byte first. -/
def toNat : Bytes → Nat
  | [] => 0
  | byte :: rest => byte.toNat * 256 ^ rest.length + toNat rest

@[simp]
theorem length_ofNat (width number : Nat) : (ofNat width number).length = width := by
  induction width with
  | zero => rfl
  | succ width ih => simp [ofNat, ih]

/-- A byte string spells a number below 256 to its length. -/
theorem toNat_lt (bytes : Bytes) : toNat bytes < 256 ^ bytes.length := by
  induction bytes with
  | nil => simp [toNat]
  | cons byte rest ih =>
    have hbyte : byte.toNat + 1 ≤ 256 := byte.toNat_lt
    have hmul := Nat.mul_le_mul_right (256 ^ rest.length) hbyte
    simp only [toNat, List.length_cons, Nat.pow_succ]
    rw [Nat.mul_comm (256 ^ rest.length) 256]
    rw [Nat.add_mul, Nat.one_mul] at hmul
    omega

/-- Reading returns the number that was written, modulo what the width can hold. -/
theorem toNat_ofNat (width number : Nat) :
    toNat (ofNat width number) = number % 256 ^ width := by
  induction width with
  | zero => simp [ofNat, toNat, Nat.mod_one]
  | succ width ih =>
    simp only [ofNat, toNat, length_ofNat, ih, UInt8.toNat_ofNat']
    rw [Nat.pow_succ 256 width, @Nat.mod_mul (256 ^ width) 256 number, Nat.mul_comm (256 ^ width),
      Nat.add_comm]

/-- Every byte string is the written form of the number it spells. -/
theorem ofNat_toNat (bytes : Bytes) : ofNat bytes.length (toNat bytes) = bytes := by
  suffices h : ∀ (rest : Bytes) (high : Nat),
      ofNat rest.length (high * 256 ^ rest.length + toNat rest) = rest by
    simpa using h bytes 0
  intro rest
  induction rest with
  | nil => intro _; rfl
  | cons byte rest ih =>
    intro high
    have hpos : 0 < 256 ^ rest.length := Nat.pow_pos (by decide)
    have hsplit : high * 256 ^ (rest.length + 1) + (byte.toNat * 256 ^ rest.length + toNat rest) =
        (high * 256 + byte.toNat) * 256 ^ rest.length + toNat rest := by
      rw [Nat.pow_succ, Nat.add_mul, Nat.mul_assoc, Nat.mul_comm 256, Nat.add_assoc]
    simp only [List.length_cons, ofNat, toNat]
    rw [hsplit, ih]
    congr 1
    rw [Nat.mul_comm, Nat.mul_add_div hpos, Nat.div_eq_of_lt (toNat_lt rest)]
    apply UInt8.toNat_inj.mp
    have hbyte := byte.toNat_lt
    simp only [UInt8.toNat_ofNat']
    omega

end RecordBytes.BigEndian
