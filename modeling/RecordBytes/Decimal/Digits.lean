/-!
# Decimal digits

The digits of a natural number, and the number that digits spell.  Zero has no digits.

Main results:

- `Digits.value_ofNat`: the digits of a number spell it.
- `Digits.significant`: the digits without the zeros at the end.
-/

namespace RecordBytes.Digits

/-- The digits of a number, least significant first. -/
def lowFirst (number : Nat) : List Nat :=
  if number = 0 then [] else number % 10 :: lowFirst (number / 10)
termination_by number

/-- The digits of a number, most significant first. -/
def ofNat (number : Nat) : List Nat :=
  (lowFirst number).reverse

/-- The number that digits spell, most significant first. -/
def value (digits : List Nat) : Nat :=
  digits.foldl (fun high digit => 10 * high + digit) 0

/-- How many digits a number has. -/
def count (number : Nat) : Nat :=
  (lowFirst number).length

/-- How many zeros a number ends in. -/
def trailingZeros (number : Nat) : Nat :=
  ((lowFirst number).takeWhile (· == 0)).length

/-- The digits of a number without the zeros at its end, most significant first. -/
def significant (number : Nat) : List Nat :=
  ((lowFirst number).dropWhile (· == 0)).reverse

/-- The digits of a number spell it. -/
theorem value_ofNat (number : Nat) : value (ofNat number) = number := by
  unfold ofNat value
  rw [List.foldl_reverse]
  fun_induction lowFirst number with
  | case1 => rfl
  | case2 number hpos ih =>
    simp only [List.foldr_cons, ih]
    omega

end RecordBytes.Digits
