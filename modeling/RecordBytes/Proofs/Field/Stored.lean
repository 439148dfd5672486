import Mathlib
import RecordBytes.Field
import RecordBytes.Proofs.Fault.Outcome

/-!
# Stored values of a field

What a field stores is missing, where that is allowed, or of the field's kind.  On the way into storage and back
a missing value stays missing, any other one goes through the adapter of the field, and a field without an adapter
leaves all values as they are.

Main definitions:

- `Field.StoredAs`: what the host has stored for a value.
- `Field.marked`: a property of a custom type, for the runs on fixed values.

Main results:

- `Field.convert_eq_ok`: the conversion finds what the host has stored, and fails where it has nothing stored.
- `Field.logical_of_adapter`, `Field.logical_null`, `Field.logical_of_plain`: the way back.
- `Field.storable_of_stored`: what a field stores.
- `Field.stored_of_storable`: fields without an adapter.
-/

namespace RecordBytes.Field

open Outcome

/-- The field of a property that is stored as it is. -/
def plain (name : String) (kind : Kind) (nullable : Bool) (order : SortOrder) : Field :=
  ⟨⟨name, .plain kind, nullable, order, none, 0⟩, kind, rfl⟩

/-! ## Conversions -/

/-- What the host has stored for a value: where there is an adapter and the value is not missing, what the adapter
makes of it, and otherwise the value itself. -/
inductive StoredAs (field : Field) : Value → Value → Prop
  | plain {value : Value} (hnone : field.property.adapter = none) : StoredAs field value value
  | missing {adapter : Adapter} (hadapter : field.property.adapter = some adapter) : StoredAs field .null .null
  | adapted {adapter : Adapter} {value stored : Value} (hadapter : field.property.adapter = some adapter)
      (hpresent : value ≠ .null) (hstore : adapter.store value = .ok stored) : StoredAs field value stored

/-- A missing value is not converted. -/
@[simp]
theorem convert_null (field : Field) : field.convert .null = .ok .null := by
  unfold convert
  cases field.property.adapter <;> rfl

/-- A value that is not missing goes into storage as the adapter stores it. -/
theorem convert_of_adapter {field : Field} {adapter : Adapter} (hadapter : field.property.adapter = some adapter)
    {value : Value} (hpresent : value ≠ .null) : field.convert value = adapter.store value := by
  cases value with
  | null => exact absurd rfl hpresent
  | of kind content => simp [convert, hadapter, Value.isNull]

/-- A field without an adapter converts nothing. -/
theorem convert_of_plain {field : Field} (hplain : field.property.adapter = none) (value : Value) :
    field.convert value = .ok value := by
  simp [convert, hplain]

/-- The conversion finds what the host has stored for a value, and fails where it has nothing stored. -/
theorem convert_eq_ok {field : Field} {value stored : Value} :
    field.convert value = .ok stored ↔ field.StoredAs value stored := by
  constructor
  · intro h
    cases hadapter : field.property.adapter with
    | none =>
      rw [convert_of_plain hadapter] at h
      cases h
      exact StoredAs.plain hadapter
    | some adapter =>
      by_cases hnull : value = .null
      · rw [hnull, convert_null] at h
        cases h
        rw [hnull]
        exact StoredAs.missing hadapter
      · rw [convert_of_adapter hadapter hnull] at h
        exact StoredAs.adapted hadapter hnull h
  · intro h
    cases h with
    | plain hnone => exact convert_of_plain hnone value
    | missing hadapter => exact convert_null field
    | adapted hadapter hpresent hstore => exact (convert_of_adapter hadapter hpresent).trans hstore

/-- At most one value is stored for a value. -/
theorem StoredAs.unique {field : Field} {value stored other : Value} (h : field.StoredAs value stored)
    (hother : field.StoredAs value other) : stored = other :=
  Except.ok.inj ((convert_eq_ok.mpr h).symm.trans (convert_eq_ok.mpr hother))

/-- A missing value comes back missing. -/
@[simp]
theorem logical_null (field : Field) : field.logical .null = .ok .null := by
  unfold logical
  cases field.property.adapter <;> rfl

/-- A stored value that is not missing comes back as the adapter loads it. -/
theorem logical_of_adapter {field : Field} {adapter : Adapter} (hadapter : field.property.adapter = some adapter)
    {stored : Value} (hpresent : stored ≠ .null) : field.logical stored = adapter.load stored := by
  cases stored with
  | null => exact absurd rfl hpresent
  | of kind content => simp [logical, hadapter, Value.isNull]

/-- A field without an adapter gives stored values back as they are. -/
theorem logical_of_plain {field : Field} (hplain : field.property.adapter = none) (stored : Value) :
    field.logical stored = .ok stored := by
  simp [logical, hplain]

/-- Marks, which are truth values to the host and are kept as the letters y and n. -/
def mark : Adapter :=
  { name := "mark"
    storage := .plain .char
    store := fun
      | .of .bool given => .ok (.of .char (if given then 'y' else 'n'))
      | _ => .error (.illegal (.byHost "not a mark"))
    load := fun
      | .of .char 'y' => .ok (.of .bool true)
      | .of .char 'n' => .ok (.of .bool false)
      | _ => .error (.corrupt (.byHost "not a mark")) }

/-- The field of a property of marks. -/
def marked (nullable : Bool) (order : SortOrder) : Field :=
  ⟨⟨"mark", .custom "Mark", nullable, order, some mark, 0⟩, .char, rfl⟩

/-! ## Stored values -/

/-- A stored value that the field can write. -/
inductive Storable (field : Field) : Value → Prop
  | missing (hnullable : field.nullable = true) : Storable field .null
  | present (content : field.kind.Content) : Storable field (.of field.kind content)

theorem kind_of_storable {field : Field} {kind : Kind} {content : kind.Content}
    (h : Storable field (.of kind content)) : field.kind = kind := by
  cases h
  rfl

/-- A check passes exactly the values that the field can write, and leaves them as they are. -/
theorem check_eq_ok {field : Field} {value stored : Value} :
    field.check value = .ok stored ↔ value = stored ∧ Storable field stored := by
  constructor
  · intro h
    unfold check at h
    cases value with
    | null =>
      cases hnullable : field.nullable with
      | false => simp [Value.isNull, hnullable] at h
      | true =>
        simp only [Value.isNull, hnullable, if_true, Except.ok.injEq] at h
        subst h
        exact ⟨rfl, Storable.missing hnullable⟩
    | of actual content =>
      by_cases hkind : actual = field.kind
      · subst hkind
        simp only [Value.isNull, Kind.accepts, Value.content?_of, Option.isSome_some, if_true,
          Bool.false_eq_true, if_false, Except.ok.injEq] at h
        subst h
        exact ⟨rfl, Storable.present content⟩
      · simp [Value.isNull, Kind.accepts, Value.content?, hkind] at h
  · intro h
    rcases h with ⟨rfl, hstorable⟩
    unfold check
    cases hstorable with
    | missing hnullable => simp [Value.isNull, hnullable]
    | present content => simp [Value.isNull, Kind.accepts]

/-- What a field stores is missing, where that is allowed, or of the field's kind. -/
theorem storable_of_stored {field : Field} {value stored : Value} (h : field.stored value = .ok stored) :
    Storable field stored := by
  unfold Field.stored at h
  simp only [bind_eq_ok, lift_refusal_eq_ok, check_eq_ok] at h
  rcases h with ⟨converted, -, -, hstorable⟩
  exact hstorable

/-- A field without an adapter stores the values it can write as they are. -/
theorem stored_of_storable {field : Field} (hplain : field.property.adapter = none) {value : Value}
    (h : Storable field value) : field.stored value = .ok value := by
  unfold Field.stored
  simp only [bind_eq_ok, lift_refusal_eq_ok, check_eq_ok]
  exact ⟨value, convert_of_plain hplain value, rfl, h⟩

/-- A field without an adapter stores a value as it is, if at all. -/
theorem eq_of_stored {field : Field} (hplain : field.property.adapter = none) {value stored : Value}
    (h : field.stored value = .ok stored) : stored = value := by
  have hsame : field.stored value = field.check value := by simp [Field.stored, convert_of_plain hplain]
  rw [hsame, lift_refusal_eq_ok, check_eq_ok] at h
  exact h.1.symm

/-- A field without an adapter is reset to the zero of its type, without fail. -/
theorem zero_of_plain {field : Field} (h : field.property.adapter = none) :
    field.zero = .ok (field.property.type.zero field.nullable) := by
  unfold zero
  rw [h]
  cases field.property.type with
  | plain kind => rfl
  | custom name => rfl

end RecordBytes.Field
