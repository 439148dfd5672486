import RecordBytes.Decimal.Digits
import RecordBytes.Floating.Basic

/-!
# The shortest decimal text of a floating-point number

A floating-point number stands for every real that rounds to it.  Of the decimals in that interval its
text is one with the fewest digits, and of those the nearest to the exact value; an exact tie goes to the
larger magnitude.  Everything is computed on natural numbers: the exact value and the two ends of the
interval are fractions over one denominator.

Main definitions:

- `Shortest.Interval.pick`: the best decimal with a given number of digits, if one lies inside.
- `Shortest.decimal`: the shortest decimal of a finite number.
- `Floating.text`: the text, positional from one ten-thousandth up to ten to the sixteenth, scientific
  beyond.
-/

namespace RecordBytes.Floating

-- Powers of natural numbers are those of the core library, whatever else is imported.
attribute [local instance(2000)] instPowNat

namespace Shortest

/-- A positive value with the ends of the interval that rounds to it, as numerators over `denominator`;
`closed` says whether the ends belong to the interval. -/
structure Interval where
  low : Nat
  value : Nat
  high : Nat
  denominator : Nat
  closed : Bool

/-- The reals that round to a finite non-zero number.  The gap below a power of two is half as wide as the
gap above, except at the smallest exponent; a tie rounds to an even significand, so the ends belong to the
interval of one. -/
def Interval.ofBits {precision : Precision} (bits : precision.Bits) : Interval :=
  let fraction := significand bits
  let power := exponent bits - 2
  let narrow := magnitude bits % 2 ^ precision.fractionBits = 0 ∧
    2 ^ precision.fractionBits < magnitude bits
  let scale := 2 ^ power.toNat
  { low := (4 * fraction - if narrow then 1 else 2) * scale
    value := 4 * fraction * scale
    high := (4 * fraction + 2) * scale
    denominator := 2 ^ (-power).toNat
    closed := fraction % 2 == 0 }

/-- A decimal `digits` times ten to the power `exponent`. -/
structure Scientific where
  digits : Nat
  exponent : Int
deriving DecidableEq, Repr

/-- How many powers of ten a fraction below one has to be raised by to reach one, at most `fuel`. -/
def raise (denominator : Nat) : (fuel : Nat) → (numerator : Nat) → Nat
  | 0, _ => 0
  | fuel + 1, numerator =>
    if denominator ≤ numerator then 0 else raise denominator fuel (10 * numerator) + 1

/-- The exponent of the least power of ten above the value. -/
def Interval.point (interval : Interval) : Int :=
  if interval.denominator ≤ interval.value then
    Digits.count (interval.value / interval.denominator)
  else
    1 - (raise interval.denominator (interval.denominator.log2 + 1) interval.value : Int)

/-- Whether `numerator` over the interval's denominator times `scale` lies in the interval. -/
def Interval.holds (interval : Interval) (scale numerator : Nat) : Bool :=
  if interval.closed then
    interval.low * scale ≤ numerator && numerator ≤ interval.high * scale
  else interval.low * scale < numerator && numerator < interval.high * scale

/-- Of the decimals with `places` digits, the one nearest to the value, if it or the other neighbour of the
value lies in the interval; a tie goes up. -/
def Interval.pick (interval : Interval) (places : Nat) : Option Scientific :=
  let exponent := interval.point - places
  let scale := 10 ^ (-exponent).toNat
  let unit := interval.denominator * 10 ^ exponent.toNat
  let below := interval.value * scale / unit
  let remainder := interval.value * scale % unit
  let downward := interval.holds scale (below * unit)
  let upward := interval.holds scale ((below + 1) * unit)
  if downward && (!upward || 2 * remainder < unit) then some ⟨below, exponent⟩
  else if upward then some ⟨below + 1, exponent⟩
  else none

/-- The shortest decimal of a finite non-zero number; seventeen digits are enough for every number. -/
def decimal {precision : Precision} (bits : precision.Bits) : Scientific :=
  let interval := Interval.ofBits bits
  ((List.range 17).findSome? fun places => interval.pick (places + 1)).getD ⟨0, 0⟩

end Shortest

/-- Digits as text. -/
def digitText (digits : List Nat) : String :=
  String.ofList (digits.map Nat.digitChar)

/-- The text of `0.ddd` times ten to the power `point`.  Between one ten-thousandth and ten to the
sixteenth it is positional, with at least one digit on each side of the point; beyond, it is scientific,
with one digit before the point, no point without digits after it, and a bare exponent. -/
def layout (digits : List Nat) (point : Int) : String :=
  if -4 < point ∧ point ≤ 16 then
    if point ≤ 0 then "0." ++ digitText (List.replicate (-point).toNat 0 ++ digits)
    else if digits.length ≤ point then
      digitText (digits ++ List.replicate (point.toNat - digits.length) 0) ++ ".0"
    else digitText (digits.take point.toNat) ++ "." ++ digitText (digits.drop point.toNat)
  else
    let tail := if digits.length ≤ 1 then "" else "." ++ digitText (digits.drop 1)
    digitText (digits.take 1) ++ tail ++ "e" ++ toString (point - 1)

/-- The text of a number without its sign. -/
def unsignedText {precision : Precision} (bits : precision.Bits) : String :=
  if magnitude bits = infinity precision then "inf"
  else if magnitude bits = 0 then "0.0"
  else
    let shortest := Shortest.decimal bits
    layout (Digits.significant shortest.digits) (Digits.count shortest.digits + shortest.exponent)

/-- The text of a floating-point number; a NaN shows no sign. -/
def text {precision : Precision} (bits : precision.Bits) : String :=
  if isNaN bits then "NaN" else (if bits.msb then "-" else "") ++ unsignedText bits

end RecordBytes.Floating
