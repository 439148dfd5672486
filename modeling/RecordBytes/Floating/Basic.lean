/-!
# Binary floating-point numbers

Floating-point values are kept as their IEEE 754 bits, so that every payload of a NaN and both zeros
survive.  This module classifies the bits, compares them as numbers, and maps them to words whose
unsigned order is the order of the numbers.

Main definitions:

- `Floating.isNaN`, `Floating.equal`: not-a-number bits, and numerical equality.
- `Floating.significand`, `Floating.exponent`: a finite value is its significand times two to its
  exponent.
- `Floating.sortable`, `Floating.ofSortable`: the order-preserving words and the way back.
- `Floating.widen`: the same number in double precision.
-/

namespace RecordBytes

-- Powers of natural numbers are those of the core library, whatever else is imported.
attribute [local instance(2000)] instPowNat

/-- The two widths of floating-point numbers. -/
inductive Precision
  | single
  | double
deriving DecidableEq, Repr

namespace Precision

/-- The bytes that a number takes. -/
def bytes : Precision → Nat
  | single => 4
  | double => 8

/-- The bits of the fraction. -/
def fractionBits : Precision → Nat
  | single => 23
  | double => 52

/-- The bits of the biased exponent. -/
def exponentBits : Precision → Nat
  | single => 8
  | double => 11

/-- The bits of a number: sign, biased exponent, fraction. -/
abbrev Bits (precision : Precision) := BitVec (8 * precision.bytes)

/-- The bias of the exponent. -/
def bias (precision : Precision) : Nat :=
  2 ^ (precision.exponentBits - 1) - 1

end Precision

namespace Floating

variable {precision : Precision}

/-- The exponent and fraction of a number, read as one natural number. -/
def magnitude (bits : precision.Bits) : Nat :=
  bits.toNat % 2 ^ (precision.fractionBits + precision.exponentBits)

/-- The magnitude of infinity: all exponent bits set and no fraction. -/
def infinity (precision : Precision) : Nat :=
  (2 ^ precision.exponentBits - 1) * 2 ^ precision.fractionBits

/-- Bits with a magnitude past infinity are not a number. -/
def isNaN (bits : precision.Bits) : Bool :=
  infinity precision < magnitude bits

/-- The bits that stand for every NaN where only one can: positive, with the top fraction bit alone. -/
def canonicalNaN (precision : Precision) : precision.Bits :=
  BitVec.ofNat _ (infinity precision + 2 ^ (precision.fractionBits - 1))

/-- Bits with every NaN replaced by the canonical one. -/
def canonical (bits : precision.Bits) : precision.Bits :=
  if isNaN bits then canonicalNaN precision else bits

/-- Numerical equality: no NaN equals anything, and the two zeros are equal. -/
def equal (a b : precision.Bits) : Bool :=
  !isNaN a && !isNaN b && (a == b || (magnitude a == 0 && magnitude b == 0))

/-- The integer part of a finite value: the fraction below the hidden bit, which subnormals lack. -/
def significand (bits : precision.Bits) : Nat :=
  if magnitude bits < 2 ^ precision.fractionBits then magnitude bits
  else magnitude bits % 2 ^ precision.fractionBits + 2 ^ precision.fractionBits

/-- The power of two that scales the significand of a finite value. -/
def exponent (bits : precision.Bits) : Int :=
  max 1 (magnitude bits / 2 ^ precision.fractionBits : Nat) - precision.bias - precision.fractionBits

/-- The word that sorts a number among unsigned words: the sign bit is flipped on a positive number and
every bit on a negative one; every NaN sorts as the canonical one, above infinity. -/
def sortable (bits : precision.Bits) : precision.Bits :=
  if (canonical bits).msb then ~~~canonical bits else canonical bits ^^^ BitVec.intMin _

/-- The bits whose sorting word is given. -/
def ofSortable (word : precision.Bits) : precision.Bits :=
  if word.msb then word ^^^ BitVec.intMin _ else ~~~word

/-- The magnitude, in double precision, of a finite non-zero value in single precision. -/
def widenMagnitude (bits : Precision.single.Bits) : Nat :=
  let top := (significand bits).log2
  let biased := (exponent bits + top + Precision.double.bias).toNat
  let fractionBits := Precision.double.fractionBits
  biased * 2 ^ fractionBits + (significand bits * 2 ^ (fractionBits - top) - 2 ^ fractionBits)

/-- The double-precision bits of a single-precision number; every one is representable, and a NaN
becomes the canonical one. -/
def widen (bits : Precision.single.Bits) : Precision.double.Bits :=
  if isNaN bits then canonicalNaN .double
  else
    let size :=
      if magnitude bits = 0 then 0
      else if magnitude bits = infinity .single then infinity .double
      else widenMagnitude bits
    BitVec.ofNat _ size ||| if bits.msb then BitVec.intMin _ else 0

end Floating
end RecordBytes
