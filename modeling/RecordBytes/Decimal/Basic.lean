import RecordBytes.Decimal.Digits

/-!
# Decimal numbers

A decimal is an integer of any size and a scale: it stands for the integer divided by ten to the scale.
Several pairs stand for one number; the normal pair has no zeros at its end.

Main definitions:

- `Decimal.normal`: the pair with the fewest digits that stands for the same number.
- `Decimal.equal`: decimals are equal when they stand for the same number.
- `Decimal.exponent?`: the power of ten just above a non-zero decimal, where it fits a 64-bit integer.
-/

namespace RecordBytes

/-- The number `unscaled` divided by ten to the power `scale`. -/
structure Decimal where
  unscaled : Int
  scale : Int64
deriving DecidableEq, Repr

/-- An integer as a 64-bit number, where it fits. -/
def int64? (number : Int) : Option Int64 :=
  if -0x8000_0000_0000_0000 ≤ number ∧ number < 0x8000_0000_0000_0000 then
    some (Int64.ofInt number)
  else none

namespace Decimal

-- Powers of natural numbers are those of the core library, whatever else is imported.
attribute [local instance(2000)] instPowNat

/-- The decimal zero, with scale zero. -/
def zero : Decimal := ⟨0, 0⟩

/-- The pair with the fewest digits for the same number; zero has scale zero. -/
def normal (decimal : Decimal) : Int × Int :=
  if decimal.unscaled = 0 then (0, 0)
  else
    let zeros := Digits.trailingZeros decimal.unscaled.natAbs
    (decimal.unscaled / (10 ^ zeros : Nat), decimal.scale.toInt - zeros)

/-- Two decimals are equal when they stand for the same number. -/
def equal (a b : Decimal) : Bool :=
  a.normal == b.normal

/-- For a non-zero decimal, the exponent `e` with which it reads `0.ddd` times ten to the `e`, first
digit not zero; none where the exponent does not fit 64 bits. -/
def exponent? (decimal : Decimal) : Option Int64 :=
  int64? (Digits.count decimal.unscaled.natAbs - decimal.scale.toInt)

end Decimal
end RecordBytes
