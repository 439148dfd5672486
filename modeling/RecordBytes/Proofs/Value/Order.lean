import Mathlib
import RecordBytes.Proofs.Decimal.Number
import RecordBytes.Proofs.Floating.Order
import RecordBytes.Text.Utf8
import RecordBytes.Value.Basic

/-!
# The order of values

Values of one kind have an order of their own: truth values, characters, integers and large object numbers as
numbers, floating-point numbers and decimals as what they stand for, byte arrays lexicographically, and text
as its UTF-8 bytes.  A missing value comes before every value that is there.

Main definitions:

- `Kind.compare`: the order of the contents of a kind.
- `Value.compare`: the order of the values of a kind, missing ones first.
-/

namespace RecordBytes

/-- The order of the contents of a kind. -/
protected def Kind.compare : (kind : Kind) → kind.Content → kind.Content → Ordering
  | .bool, left, right => compare left.toNat right.toNat
  | .char, left, right => compare left.toNat right.toNat
  | .signed _, left, right => compare left.toInt right.toInt
  | .unsigned _, left, right => compare left.toNat right.toNat
  | .float _, left, right => Floating.compare left right
  | .text, left, right => compare (Utf8.encode left) (Utf8.encode right)
  | .bytes, left, right => compare (left : Bytes) right
  | .bigint, left, right => compare (left : Int) right
  | .decimal, left, right => compare left.toRat right.toRat
  | .lob, left, right => compare left.toNat right.toNat

/-- The order of the values of a kind; a value that is not of the kind counts as missing, and missing values
come first. -/
protected def Value.compare (kind : Kind) (left right : Value) : Ordering :=
  match left.content? kind, right.content? kind with
  | none, none => .eq
  | none, some _ => .lt
  | some _, none => .gt
  | some left, some right => kind.compare left right

@[simp]
theorem Value.compare_null_null (kind : Kind) : Value.compare kind .null .null = .eq := rfl

@[simp]
theorem Value.compare_null_of (kind : Kind) (content : kind.Content) :
    Value.compare kind .null (.of kind content) = .lt := by
  simp [Value.compare]

@[simp]
theorem Value.compare_of_null (kind : Kind) (content : kind.Content) :
    Value.compare kind (.of kind content) .null = .gt := by
  simp [Value.compare]

@[simp]
theorem Value.compare_of_of (kind : Kind) (left right : kind.Content) :
    Value.compare kind (.of kind left) (.of kind right) = kind.compare left right := by
  simp [Value.compare]

end RecordBytes
