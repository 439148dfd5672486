import RecordBytes.Field

/-!
# Bare byte arrays

A byte array that stands alone between the padding needs neither terminator nor length: it runs to the end
of the body.  Where it may be missing, one byte in front says whether it is there.

Main definitions:

- `Bare.encode`, `Bare.decode`: the body of a stored value, and the value back.
- `Bare.size`, `Bare.leastSize`: the length of a body, and the least one.
- `Bare.length_encode`: a body has the measured length.
-/

namespace RecordBytes.Bare

/-- The least length of a body. -/
def leastSize (nullable : Bool) : Nat :=
  if nullable then 1 else 0

/-- The body of a stored byte array. -/
def encode (nullable : Bool) (stored : Value) : Bytes :=
  (if nullable then [if stored.isNull then 0 else 1] else []) ++ stored.bytes?.getD []

/-- The length of the body of a stored byte array. -/
def size (nullable : Bool) (stored : Value) : Nat :=
  leastSize nullable + (stored.bytes?.getD []).length

/-- The body has the measured length. -/
@[simp]
theorem length_encode (nullable : Bool) (stored : Value) :
    (encode nullable stored).length = size nullable stored := by
  cases nullable <;> simp [encode, size, leastSize, Nat.add_comm]

/-- The byte array in a body; a first byte other than those two, or bytes behind a missing value, are
damage. -/
def decode (nullable : Bool) (damage : Damage) (body : Bytes) : Except Damage Value :=
  if nullable then
    match body with
    | [] => .error damage
    | first :: rest =>
      if first = 0 ∧ rest = [] then .ok .null
      else if first = 1 then .ok (.of .bytes rest)
      else .error damage
  else .ok (.of .bytes body)

end RecordBytes.Bare
