import RecordBytes.Cursor

/-!
# Sortable decimals

Zero is a marker alone.  Any other decimal is a marker for its sign, the exponent with which it reads
`0.ddd`, its digits without the zeros at the end, each raised by one, and a zero byte.  Everything after
the marker is complemented for a negative decimal.  Equal decimals have one form, so reading returns an
equal decimal with a scale of its own.

Main definitions:

- `SortableDecimal.encode`, `SortableDecimal.read`: writing and reading.
- `SortableDecimal.size`: the length of the written form.
-/

namespace RecordBytes.SortableDecimal

/-- The marker of a negative decimal. -/
def negativeMarker : UInt8 := 0x7F

/-- The marker of zero. -/
def zeroMarker : UInt8 := 0x80

/-- The marker of a positive decimal. -/
def positiveMarker : UInt8 := 0x81

/-- The exponent as an unsigned word that keeps the order. -/
def exponentWord (exponent : Int64) : BitVec 64 :=
  exponent.toBitVec ^^^ BitVec.intMin 64

/-- The exponent and digits of a decimal's magnitude, with the terminator. -/
def encodeMagnitude (exponent : Int64) (digits : List Nat) : Bytes :=
  BigEndian.ofNat 8 (exponentWord exponent).toNat ++
    digits.map (fun digit => UInt8.ofNat (digit + 1)) ++ [0]

/-- The sortable form of a decimal. -/
def encode (decimal : Decimal) : Except Refusal Bytes :=
  if decimal.unscaled = 0 then .ok [zeroMarker]
  else
    match decimal.exponent? with
    | none => .error .exponentOutOfRange
    | some exponent =>
      let magnitude := encodeMagnitude exponent (Digits.significant decimal.unscaled.natAbs)
      .ok <| if decimal.unscaled < 0 then negativeMarker :: magnitude.complement
        else positiveMarker :: magnitude

/-- The length of the sortable form. -/
def size (decimal : Decimal) : Except Refusal Nat :=
  if decimal.unscaled = 0 then .ok 1
  else
    match decimal.exponent? with
    | none => .error .exponentOutOfRange
    | some _ => .ok (1 + 8 + (Digits.significant decimal.unscaled.natAbs).length + 1)

/-- Puts a digit before the digits that a scan found. -/
def prepend (digit : Nat) :
    EStateM.Result Damage Cursor (List Nat) → EStateM.Result Damage Cursor (List Nat)
  | .ok digits cursor => .ok (digit :: digits) cursor
  | .error damage cursor => .error damage cursor

/-- Reads digits from unread bytes up to and with the terminator. -/
def digitsFrom (mask : UInt8) (position : Nat) :
    Bytes → EStateM.Result Damage Cursor (List Nat)
  | [] => .error (.endOfInput "decimal digits") ⟨position, [], mask⟩
  | masked :: rest =>
    let byte := masked ^^^ mask
    if byte = 0 then .ok [] ⟨position + 1, rest, mask⟩
    else if byte ≤ 10 then prepend (byte.toNat - 1) (digitsFrom mask (position + 1) rest)
    else .error (.decimalDigit byte) ⟨position + 1, rest, mask⟩

/-- Reads digits up to and with the terminator. -/
def readDigits : Scan (List Nat) := fun cursor =>
  digitsFrom cursor.mask cursor.position cursor.unread

/-- Reads an exponent and digits. -/
def readMagnitude : Scan (Int64 × List Nat) := do
  let word ← Scan.number 8 "decimal exponent"
  let digits ← readDigits
  return (Int64.ofBitVec (BitVec.ofNat 64 word ^^^ BitVec.intMin 64), digits)

/-- The decimal `0.ddd` times ten to the exponent; its scale is the one at which the digits are an
integer. -/
def assemble (negative : Bool) (exponent : Int64) (digits : List Nat) : Except Damage Decimal :=
  if digits.isEmpty then .error .noDigits
  else
    match int64? (digits.length - exponent.toInt) with
    | none => .error .exponentOutOfRange
    | some scale =>
      let magnitude : Int := Digits.value digits
      .ok ⟨if negative then -magnitude else magnitude, scale⟩

/-- Reads a decimal.  Digit strings that no encoder writes, with zeros at either end, are accepted. -/
def read : Scan Decimal := do
  let marker ← Scan.byte "decimal marker"
  if marker = zeroMarker then return Decimal.zero
  else if marker = positiveMarker then
    let (exponent, digits) ← readMagnitude
    Scan.ofExcept (assemble false exponent digits)
  else if marker = negativeMarker then
    let (exponent, digits) ← Scan.complemented readMagnitude
    Scan.ofExcept (assemble true exponent digits)
  else throw (.decimalMarker marker)

end RecordBytes.SortableDecimal
