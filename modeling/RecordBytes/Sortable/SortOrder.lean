import RecordBytes.Bytes.Basic

/-!
# Sort order of a key property

A property that sorts downward is written as the complement of its upward form, so one byte order serves
both.

Main definitions:

- `SortOrder.apply`: the written form in a given order.
- `SortOrder.mask`: the mask under which the written form reads as the upward one.
-/

namespace RecordBytes

/-- The order in which a key property sorts; one that is not stated is ascending. -/
inductive SortOrder
  | unspecified
  | ascending
  | descending
deriving DecidableEq, Repr

namespace SortOrder

/-- Whether the property sorts downward. -/
def isDescending : SortOrder → Bool
  | descending => true
  | unspecified | ascending => false

/-- What every byte is combined with to read it as if it were written upward. -/
def mask (order : SortOrder) : UInt8 :=
  if order.isDescending then 0xFF else 0

/-- An upward form as it is written in this order. -/
def apply (order : SortOrder) (upward : Bytes) : Bytes :=
  if order.isDescending then upward.complement else upward

@[simp]
theorem length_apply (order : SortOrder) (upward : Bytes) :
    (order.apply upward).length = upward.length := by
  unfold apply
  split <;> simp

end SortOrder
end RecordBytes
