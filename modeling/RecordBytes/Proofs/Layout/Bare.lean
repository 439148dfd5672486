import Mathlib
import RecordBytes.Layout.Bare
import RecordBytes.Layout.Cells
import RecordBytes.Proofs.Field.Stored
import RecordBytes.Proofs.Layout.Cells
import RecordBytes.Proofs.Value.Order

/-!
# Bare byte arrays

A bare byte array is read back as it was stored, and bare forms compare as what is stored.

Main results:

- `Bare.decode_encode`: a stored byte array is read back.
- `Bare.compare_bodies`: stored byte arrays compare as their bare forms.
-/

namespace RecordBytes

/-- What is stored at every index can be written by the field there. -/
theorem Cells.storable_of_stored {field : Field} {values stored : List Value}
    (h : Cells.stored [field] values = .ok stored) (hlength : stored.length = 1) :
    ∃ value, stored = [value] ∧ field.Storable value := by
  cases values with
  | nil =>
    rcases Except.ok.inj h with rfl
    cases hlength
  | cons value values =>
    rcases stored_cons.mp h with ⟨first, rest, hfirst, hrest, rfl⟩
    rcases Except.ok.inj ((stored_nil values).symm.trans hrest) with rfl
    exact ⟨first, rfl, Field.storable_of_stored hfirst⟩

namespace Bare

/-- A stored byte array is read back from its bare form. -/
theorem decode_encode {field : Field} (hkind : field.kind = .bytes) {stored : Value}
    (h : field.Storable stored) (damage : Damage) :
    Bare.decode field.nullable damage (Bare.encode field.nullable stored) = .ok stored := by
  rcases field with ⟨property, kind, hstorage⟩
  obtain rfl : kind = .bytes := hkind
  cases h with
  | missing hnullable => simp [Bare.decode, Bare.encode, hnullable, Value.isNull, Value.bytes?]
  | present content =>
    cases hnullable : Field.nullable ⟨property, .bytes, hstorage⟩ with
    | true => simp [Bare.decode, Bare.encode, Value.isNull, Value.bytes?]
    | false => simp [Bare.decode, Bare.encode, Value.bytes?]

/-! ## Order -/

/-- Stored byte arrays compare as their bare forms. -/
theorem compare_bodies {field : Field} (hkind : field.kind = .bytes) {left right : Value}
    (hleft : field.Storable left) (hright : field.Storable right) :
    compare (encode field.nullable left) (encode field.nullable right) =
      Value.compare .bytes left right := by
  rcases field with ⟨property, kind, hstorage⟩
  obtain rfl : kind = .bytes := hkind
  cases hleft with
  | missing hnullable =>
    cases hright with
    | missing _ => simp
    | present content =>
      have hmarkers : compare (0 : UInt8) 1 = .lt := rfl
      simp [encode, hnullable, Value.isNull, List.compare_cons_cons, hmarkers]
  | present left =>
    cases hright with
    | missing hnullable =>
      have hmarkers : compare (1 : UInt8) 0 = .gt := rfl
      simp [encode, hnullable, Value.isNull, List.compare_cons_cons, hmarkers]
    | present right =>
      rw [Value.compare_of_of]
      exact (Bytes.Settled.refl _).compare_append left right

/-- Stored byte arrays have one bare form exactly when they compare as equal. -/
theorem encode_eq_iff {field : Field} (hkind : field.kind = .bytes) {left right : Value}
    (hleft : field.Storable left) (hright : field.Storable right) :
    encode field.nullable left = encode field.nullable right ↔ Value.compare field.kind left right = .eq := by
  rw [hkind, ← compare_bodies hkind hleft hright]
  exact Std.compare_eq_iff_eq.symm

end Bare
end RecordBytes
