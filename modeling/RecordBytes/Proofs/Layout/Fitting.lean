import Mathlib
import RecordBytes.Proofs.Data.Written
import RecordBytes.Proofs.Key.Parts
import RecordBytes.Proofs.Layout.Writable
import RecordBytes.Proofs.Snapshot.Written

/-!
# Values that fit

What is stored for a value is what the adapter makes of it, where there is an adapter and the value is not missing,
and otherwise the value itself.  A value fits its field when this is missing, where that is allowed, or of the
field's kind, and when a decimal is in the range of the byte form.  Nothing else keeps values of less than 2^31 bytes
from being written, and as long as the adapters do their part, a writer fails only by refusing.

Main results:

- `Field.canHold_iff`: the stored values that have a cell are those that fit.
- `KeyLayout.exists_encode_iff`, `DataLayout.exists_encode_iff`, `SnapshotLayout.exists_encode_iff`: what is
  written for values that fit.
- `KeyLayout.refusing_encode`, `DataLayout.refusing_encode`, `SnapshotLayout.refusing_encode`: every failure is a
  refusal.
-/

namespace RecordBytes

open Outcome

/-! ## Stored values -/

/-- The number of bytes of a content without a fixed width. -/
def Kind.payloadSize : (kind : Kind) → kind.Content → Nat
  | .text, content => (Utf8.encode content).length
  | .bytes, content => List.length content
  | .bigint, content => TwosComplement.size content
  | .decimal, content => TwosComplement.size content.unscaled
  | .bool, _ | .char, _ | .signed _, _ | .unsigned _, _ | .float _, _ | .lob, _ => 0

/-- The number of bytes of a value without a fixed width. -/
def Value.payloadSize : Value → Nat
  | .null => 0
  | .of kind content => kind.payloadSize content

/-- A decimal that a byte form has room for: the sortable form keeps the exponent of a decimal that is not zero in
64 bits, the compact form the scale in 32 bits. -/
def Decimal.InRange (form : Form) (decimal : Decimal) : Prop :=
  match form with
  | .sortable => decimal.unscaled ≠ 0 →
      -0x8000_0000_0000_0000 ≤ (Digits.count decimal.unscaled.natAbs : Int) - decimal.scale.toInt ∧
        (Digits.count decimal.unscaled.natAbs : Int) - decimal.scale.toInt < 0x8000_0000_0000_0000
  | .compact => -0x8000_0000 ≤ decimal.scale.toInt ∧ decimal.scale.toInt < 0x8000_0000

/-- Of contents of less than 2^31 bytes, only a decimal can be without a sortable form. -/
theorem Sortable.writable_iff_inRange (kind : Kind) {content : kind.Content}
    (hsize : kind.payloadSize content < 0x8000_0000) :
    Writable kind content ↔
      ∀ decimal, Value.of kind content = .of .decimal decimal → decimal.InRange .sortable := by
  cases kind with
  | bigint =>
    have hfits : TwosComplement.size content ≤ Bigint.maxSize := Nat.le_of_lt_add_one hsize
    simp [Writable, hfits]
  | decimal =>
    constructor
    · rintro hwritable _ ⟨⟩ hne
      exact int64?_isSome_iff.mp (hwritable hne)
    · intro hrange hne
      exact int64?_isSome_iff.mpr (hrange content rfl hne)
  | bool | char | signed | unsigned | float | text | bytes | lob => simp [Writable]

/-- Of contents of less than 2^31 bytes, only a decimal can be without a compact form. -/
theorem Compact.writable_iff_inRange (kind : Kind) {content : kind.Content}
    (hsize : kind.payloadSize content < 0x8000_0000) :
    Writable kind content ↔
      ∀ decimal, Value.of kind content = .of .decimal decimal → decimal.InRange .compact := by
  cases kind with
  | text | bytes | bigint =>
    simp only [Kind.payloadSize] at hsize
    simp only [Writable, Value.of.injEq, reduceCtorEq, false_and, false_implies, implies_true, iff_true]
    omega
  | decimal =>
    simp only [Kind.payloadSize] at hsize
    constructor
    · rintro hwritable _ ⟨⟩
      exact hwritable.2
    · intro hrange
      exact ⟨by omega, hrange content rfl⟩
  | bool | char | signed | unsigned | float | lob => simp [Writable]

namespace Field

variable {form : Form} {field : Field}

/-- A stored value that the field can write in a byte form. -/
structure Fits (form : Form) (field : Field) (stored : Value) : Prop where
  storable : field.Storable stored
  inRange : ∀ decimal, stored = .of .decimal decimal → decimal.InRange form

/-- A content of less than 2^31 bytes has a cell, unless it is a decimal that is out of range. -/
theorem exists_cell_iff {content : field.kind.Content} (hsize : field.kind.payloadSize content < 0x8000_0000) :
    (∃ cell, field.encode form (.of field.kind content) = .ok cell) ↔
      ∀ decimal, Value.of field.kind content = .of .decimal decimal → decimal.InRange form := by
  cases form with
  | sortable =>
    rw [← Sortable.writable_iff_inRange _ hsize, ← Sortable.exists_form_iff]
    constructor
    · rintro ⟨cell, hcell⟩
      rcases Sortable.encode_eq_ok.mp hcell with ⟨_, hupward, -⟩
      cases hupward with
      | present hform => exact ⟨_, hform⟩
    · rintro ⟨form, hform⟩
      exact (canHold_of_sortable (Sortable.Cell.present hform)).cell
  | compact =>
    rw [← Compact.writable_iff_inRange _ hsize, ← Compact.exists_form_iff]
    constructor
    · rintro ⟨cell, hcell⟩
      have hwritten : Compact.Cell field.kind field.nullable (.of field.kind content) cell :=
        Compact.encode_eq_ok.mp hcell
      cases hwritten with
      | present hform => exact ⟨_, hform⟩
    · rintro ⟨form, hform⟩
      exact (canHold_of_compact (Compact.Cell.present hform)).cell

/-- A missing value has a cell where it is allowed. -/
theorem canHold_null (hnullable : field.nullable = true) : field.CanHold form .null := by
  cases form with
  | sortable => exact canHold_of_sortable (Sortable.Cell.missing hnullable)
  | compact => exact canHold_of_compact (Compact.Cell.missing hnullable)

/-- A value of less than 2^31 bytes can be held when it fits. -/
theorem canHold_iff {stored : Value} (hsize : stored.payloadSize < 0x8000_0000) :
    field.CanHold form stored ↔ field.Fits form stored := by
  constructor
  · rintro ⟨hstorable, hcell⟩
    refine ⟨hstorable, ?_⟩
    cases hstorable with
    | missing _ => simp
    | present content => exact (exists_cell_iff hsize).mp hcell
  · rintro ⟨hstorable, hrange⟩
    cases hstorable with
    | missing hnullable => exact canHold_null hnullable
    | present content => exact ⟨Storable.present content, (exists_cell_iff hsize).mpr hrange⟩

/-! ## Values on their way into storage -/

/-- A value that has something stored for it, of less than 2^31 bytes. -/
def Converts (field : Field) (value : Value) : Prop :=
  ∃ stored, field.StoredAs value stored ∧ stored.payloadSize < 0x8000_0000

/-- A value that has something stored for it that fits. -/
def Accepts (form : Form) (field : Field) (value : Value) : Prop :=
  ∃ stored, field.StoredAs value stored ∧ field.Fits form stored

theorem stored_eq_ok {value stored : Value} :
    field.stored value = .ok stored ↔ field.StoredAs value stored ∧ field.Storable stored := by
  unfold Field.stored
  simp only [bind_eq_ok, lift_refusal_eq_ok, check_eq_ok, convert_eq_ok]
  constructor
  · rintro ⟨_, hstoredAs, rfl, hstorable⟩
    exact ⟨hstoredAs, hstorable⟩
  · rintro ⟨hstoredAs, hstorable⟩
    exact ⟨stored, hstoredAs, rfl, hstorable⟩

/-- A value is accepted when it can be stored and what is stored has a cell. -/
theorem accepts_iff {value : Value} (hconverts : field.Converts value) :
    field.Accepts form value ↔
      ∃ stored cell, field.stored value = .ok stored ∧ field.encode form stored = .ok cell := by
  rcases hconverts with ⟨converted, hconverted, hsize⟩
  simp only [stored_eq_ok]
  constructor
  · rintro ⟨stored, hstoredAs, hfits⟩
    rcases hstoredAs.unique hconverted with rfl
    rcases (canHold_iff hsize).mpr hfits with ⟨hstorable, cell, hcell⟩
    exact ⟨stored, cell, ⟨hconverted, hstorable⟩, hcell⟩
  · rintro ⟨stored, cell, ⟨hstoredAs, hstorable⟩, hcell⟩
    rcases hstoredAs.unique hconverted with rfl
    exact ⟨stored, hconverted, (canHold_iff hsize).mp ⟨hstorable, cell, hcell⟩⟩

/-- A byte array is accepted when it can be stored. -/
theorem accepts_iff_of_bytes (hkind : field.kind = .bytes) {value : Value} :
    field.Accepts form value ↔ ∃ stored, field.stored value = .ok stored := by
  simp only [stored_eq_ok]
  constructor
  · rintro ⟨stored, hstoredAs, hfits⟩
    exact ⟨stored, hstoredAs, hfits.storable⟩
  · rintro ⟨stored, hstoredAs, hstorable⟩
    refine ⟨stored, hstoredAs, hstorable, ?_⟩
    rintro decimal rfl
    cases hkind.symm.trans (kind_of_storable hstorable)

theorem refusing_stored {value : Value} (hconverts : field.Converts value) : Refusing (field.stored value) := by
  rcases hconverts with ⟨converted, hconverted, -⟩
  exact (Refusing.of_ok (convert_eq_ok.mpr hconverted)).bind fun _ _ => Refusing.lift _

end Field

/-! ## Runs -/

namespace Cells

variable {form : Form} {fields : List Field} {values : List Value}

/-- A run is written when each value is accepted. -/
theorem exists_run_iff (hconverts : List.Forall₂ Field.Converts fields values) :
    (∃ stored run, Cells.stored fields values = .ok stored ∧ encode form fields stored = .ok run) ↔
      List.Forall₂ (Field.Accepts form) fields values := by
  induction hconverts with
  | nil => exact ⟨fun _ => List.Forall₂.nil, fun _ => ⟨[], [], rfl, rfl⟩⟩
  | @cons field value fields values hfirst hothers ih =>
    rw [List.forall₂_cons, ← ih, Field.accepts_iff hfirst]
    constructor
    · rintro ⟨_, run, hstored, hrun⟩
      rcases stored_cons.mp hstored with ⟨first, rest, hvalue, hrest, rfl⟩
      rcases encode_cons.mp hrun with ⟨cell, restRun, hcell, hrestRun, rfl⟩
      exact ⟨⟨first, cell, hvalue, hcell⟩, rest, restRun, hrest, hrestRun⟩
    · rintro ⟨⟨first, cell, hvalue, hcell⟩, rest, restRun, hrest, hrestRun⟩
      exact ⟨_, _, stored_cons.mpr ⟨first, rest, hvalue, hrest, rfl⟩,
        encode_cons.mpr ⟨cell, restRun, hcell, hrestRun, rfl⟩⟩

theorem refusing_stored (hconverts : List.Forall₂ Field.Converts fields values) :
    Refusing (Cells.stored fields values) := by
  induction hconverts with
  | nil => exact Refusing.of_ok (stored_nil [])
  | cons hfirst _ ih =>
    exact (Field.refusing_stored hfirst).bind fun _ _ => ih.bind fun _ _ => Refusing.of_ok rfl

/-- One byte array can be stored when it is accepted. -/
theorem exists_stored_iff_of_bytes {field : Field} (hkind : field.kind = .bytes) (hcount : values.length = 1) :
    (∃ stored, Cells.stored [field] values = .ok stored) ↔ List.Forall₂ (Field.Accepts form) [field] values := by
  rcases List.length_eq_one_iff.mp hcount with ⟨value, rfl⟩
  rw [List.forall₂_cons, Field.accepts_iff_of_bytes hkind]
  constructor
  · rintro ⟨_, hstored⟩
    rcases stored_cons.mp hstored with ⟨first, rest, hfirst, -, -⟩
    exact ⟨⟨first, hfirst⟩, List.Forall₂.nil⟩
  · rintro ⟨⟨first, hfirst⟩, -⟩
    exact ⟨_, stored_cons.mpr ⟨first, [], hfirst, rfl, rfl⟩⟩

end Cells

/-! ## Keys -/

namespace KeyLayout

variable {layout : KeyLayout} {values : List Value} {bounds : Bounds} {span : Span}

/-- The part of a key is written when each value in its span is accepted. -/
theorem exists_encodeSpan_iff (hspan : layout.resolve bounds = .ok span)
    (hvalues : values.length = layout.fields.length)
    (hconverts : List.Forall₂ Field.Converts (span.slice layout.fields) (span.slice values)) :
    (∃ key, layout.encodeSpan values span = .ok key) ↔
      List.Forall₂ (Field.Accepts .sortable) (span.slice layout.fields) (span.slice values) := by
  have hstop := stop_le_of_resolve hspan
  have hwithin : span.stop ≤ values.length := hvalues ▸ hstop
  simp only [encodeSpan_eq_ok, hstop, hwithin, true_and]
  cases hbare : layout.bare? with
  | some field =>
    rcases resolve_of_bare hbare hspan with rfl
    rcases bare?_eq_some hbare with ⟨hfields, hkind, -⟩
    have hslice : (Span.full 1).slice layout.fields = [field] := by simp [Span.slice, Span.full, hfields]
    have hcount : ((Span.full 1).slice values).length = 1 := Span.length_slice (Span.full 1) hwithin
    rw [hslice, ← Cells.exists_stored_iff_of_bytes hkind hcount]
    constructor
    · rintro ⟨key, stored, hstored, -⟩
      exact ⟨stored, hstored⟩
    · rintro ⟨stored, hstored⟩
      exact ⟨_, stored, hstored, Written.bare hbare⟩
  | none =>
    rw [← Cells.exists_run_iff hconverts]
    constructor
    · rintro ⟨key, stored, hstored, hwritten⟩
      rcases hwritten.run_of_not_bare hbare with ⟨run, hrun, -⟩
      exact ⟨stored, run, hstored, hrun⟩
    · rintro ⟨stored, run, hstored, hrun⟩
      exact ⟨_, stored, hstored, Written.cells hbare hrun⟩

/-- A key, or the part that bounds name, is written when they name a span and each value in it is accepted. -/
theorem exists_encode_iff (hvalues : values.length = layout.fields.length)
    (hconverts : ∀ span, layout.resolve bounds = .ok span →
      List.Forall₂ Field.Converts (span.slice layout.fields) (span.slice values)) :
    (∃ key, layout.encode values bounds = .ok key) ↔
      ∃ span, layout.resolve bounds = .ok span ∧
        List.Forall₂ (Field.Accepts .sortable) (span.slice layout.fields) (span.slice values) := by
  simp only [encode, bind_eq_ok, lift_refusal_eq_ok]
  constructor
  · rintro ⟨key, span, hspan, hkey⟩
    exact ⟨span, hspan, (exists_encodeSpan_iff hspan hvalues (hconverts span hspan)).mp ⟨key, hkey⟩⟩
  · rintro ⟨span, hspan, haccepts⟩
    rcases (exists_encodeSpan_iff hspan hvalues (hconverts span hspan)).mpr haccepts with ⟨key, hkey⟩
    exact ⟨key, span, hspan, hkey⟩

/-- A key that cannot be written is refused. -/
theorem refusing_encode (hvalues : values.length = layout.fields.length)
    (hconverts : ∀ span, layout.resolve bounds = .ok span →
      List.Forall₂ Field.Converts (span.slice layout.fields) (span.slice values)) :
    Refusing (layout.encode values bounds) := by
  refine (Refusing.lift _).bind ?_
  intro span hspan
  rw [lift_refusal_eq_ok] at hspan
  have hstop := stop_le_of_resolve hspan
  have hselect : span.of? values = some (span.slice values) := Span.of?_eq_some.mpr ⟨hvalues ▸ hstop, rfl⟩
  refine Refusing.guard fun _ => ?_
  rw [run?_of_stop_le hstop, hselect]
  simp only [inBounds, ok_bind]
  refine (Cells.refusing_stored (hconverts span hspan)).bind ?_
  intro stored _
  cases layout.bare? with
  | some field => exact Refusing.of_ok rfl
  | none => exact Refusing.lift _

end KeyLayout

/-! ## Data -/

namespace DataLayout

variable {layout : DataLayout} {values : List Value} {generation : Option Nat}

/-- Data is written when its generation is small enough and each value is accepted. -/
theorem exists_encode_iff (hconverts : List.Forall₂ Field.Converts layout.fields values) :
    (∃ bytes, layout.encode values generation = .ok bytes) ↔
      (∀ number, generation = some number → number ≤ Generation.max) ∧
        List.Forall₂ (Field.Accepts .compact) layout.fields values := by
  simp only [encode_eq_ok, hconverts.length_eq.symm, true_and, exists_and_left]
  refine and_congr_right fun _ => ?_
  cases hbare : layout.bare? with
  | some field =>
    rcases bare?_eq_some hbare with ⟨hfields, hkind⟩
    have hcount : values.length = 1 := by rw [← hconverts.length_eq, hfields, List.length_singleton]
    rw [hfields, ← Cells.exists_stored_iff_of_bytes hkind hcount]
    constructor
    · rintro ⟨bytes, stored, hstored, -⟩
      exact ⟨stored, hstored⟩
    · rintro ⟨stored, hstored⟩
      exact ⟨_, stored, hstored, _, Written.bare hbare, rfl⟩
  | none =>
    rw [← Cells.exists_run_iff hconverts]
    constructor
    · rintro ⟨bytes, stored, hstored, run, hwritten, -⟩
      exact ⟨stored, run, hstored, (written_of_not_bare hbare).mp hwritten⟩
    · rintro ⟨stored, run, hstored, hrun⟩
      exact ⟨_, stored, hstored, run, Written.cells hbare hrun, rfl⟩

/-- Data that cannot be written is refused. -/
theorem refusing_encode (hconverts : List.Forall₂ Field.Converts layout.fields values) :
    Refusing (layout.encode values generation) := by
  refine Refusing.guard fun _ => ?_
  cases generation with
  | none =>
    refine (Cells.refusing_stored hconverts).bind ?_
    intro stored _
    cases layout.bare? with
    | some field => exact Refusing.of_ok rfl
    | none => exact Refusing.lift _
  | some number =>
    refine (Refusing.lift (Generation.check number)).bind ?_
    intro checked _
    refine (Cells.refusing_stored hconverts).bind ?_
    intro stored _
    cases layout.bare? with
    | some field => exact Refusing.of_ok rfl
    | none => exact Refusing.lift _

end DataLayout

/-! ## Snapshots -/

namespace SnapshotLayout

variable {layout : SnapshotLayout} {slots : Slots} {values : List Value}

/-- A condition holds of the assigned ones of some fields and their values, from an ordinal on. -/
def AssignedAll (slots : Slots) (condition : Field → Value → Prop) (ordinal : Nat) (fields : List Field)
    (values : List Value) : Prop :=
  ∀ (index : Nat) (field : Field) (value : Value), fields[index]? = some field → values[index]? = some value →
    slots.isAssigned (ordinal + index) = true → condition field value

theorem assignedAll_cons {condition : Field → Value → Prop} {ordinal : Nat} {field : Field} {fields : List Field}
    {value : Value} {values : List Value} :
    AssignedAll slots condition ordinal (field :: fields) (value :: values) ↔
      (slots.isAssigned ordinal = true → condition field value) ∧
        AssignedAll slots condition (ordinal + 1) fields values := by
  constructor
  · intro hall
    refine ⟨hall 0 field value rfl rfl, ?_⟩
    intro index other given hother hgiven hassigned
    refine hall (index + 1) other given hother hgiven ?_
    rwa [Nat.add_comm index 1, ← Nat.add_assoc]
  · rintro ⟨hfirst, hothers⟩ index other given hother hgiven hassigned
    cases index with
    | zero =>
      rcases Option.some.inj hother with rfl
      rcases Option.some.inj hgiven with rfl
      exact hfirst hassigned
    | succ index =>
      refine hothers index other given hother hgiven ?_
      rwa [Nat.add_assoc, Nat.add_comm 1 index]

/-- The cells are written when each assigned value is accepted. -/
theorem exists_cellsFrom_iff {ordinal : Nat} {fields : List Field} {values : List Value}
    (hlength : values.length = fields.length) (hconverts : AssignedAll slots Field.Converts ordinal fields values) :
    (∃ run, CellsFrom slots ordinal fields values run) ↔
      AssignedAll slots (Field.Accepts .compact) ordinal fields values := by
  induction fields generalizing ordinal values with
  | nil =>
    rcases List.length_eq_zero_iff.mp hlength with rfl
    constructor
    · rintro - index field value ⟨⟩
    · rintro -
      exact ⟨[], CellsFrom.nil⟩
  | cons field fields ih =>
    rcases List.exists_cons_of_length_eq_add_one hlength with ⟨value, values, rfl⟩
    rcases assignedAll_cons.mp hconverts with ⟨hfirst, hothers⟩
    rw [assignedAll_cons, ← ih (Nat.succ.inj hlength) hothers]
    constructor
    · rintro ⟨run, hrun⟩
      cases hrun with
      | present hassigned hstored hcell hrest =>
        exact ⟨fun _ => (Field.accepts_iff (hfirst hassigned)).mpr ⟨_, _, hstored, hcell⟩, _, hrest⟩
      | absent hunassigned hrest =>
        refine ⟨?_, _, hrest⟩
        intro hassigned
        cases hunassigned.symm.trans hassigned
    · rintro ⟨haccepts, run, hrest⟩
      cases hassigned : slots.isAssigned ordinal with
      | true =>
        rcases (Field.accepts_iff (hfirst hassigned)).mp (haccepts hassigned) with ⟨stored, cell, hstored, hcell⟩
        exact ⟨_, CellsFrom.present hassigned hstored hcell hrest⟩
      | false => exact ⟨_, CellsFrom.absent hassigned hrest⟩

/-- A snapshot is written when each assigned value is accepted. -/
theorem exists_encode_iff (hlength : values.length = layout.fields.length)
    (hconverts : AssignedAll slots Field.Converts 0 layout.fields values) :
    (∃ bytes, layout.encode values slots = .ok bytes) ↔
      AssignedAll slots (Field.Accepts .compact) 0 layout.fields values := by
  simp only [← exists_cellsFrom_iff hlength hconverts, encode_eq_ok, hlength, true_and]
  constructor
  · rintro ⟨_, run, hrun, -⟩
    exact ⟨run, hrun⟩
  · rintro ⟨run, hrun⟩
    exact ⟨_, run, hrun, rfl⟩

theorem refusing_storedFrom {ordinal : Nat} {fields : List Field} {values : List Value}
    (hconverts : AssignedAll slots Field.Converts ordinal fields values) :
    Refusing (storedFrom slots ordinal fields values) := by
  induction fields generalizing ordinal values with
  | nil => exact Refusing.of_ok rfl
  | cons field fields ih =>
    cases values with
    | nil => exact Refusing.of_ok rfl
    | cons value values =>
      rcases assignedAll_cons.mp hconverts with ⟨hfirst, hothers⟩
      have hrest : ∀ first, Refusing (do return first :: (← storedFrom slots (ordinal + 1) fields values)) :=
        fun first => (ih hothers).bind fun _ _ => Refusing.of_ok rfl
      rw [storedFrom]
      cases hassigned : slots.isAssigned ordinal with
      | true =>
        have hvalue := Field.refusing_stored (hfirst hassigned)
        exact (hvalue.map some).bind fun first _ => hrest first
      | false => exact hrest none

/-- A snapshot that cannot be written is refused. -/
theorem refusing_encode (hconverts : AssignedAll slots Field.Converts 0 layout.fields values) :
    Refusing (layout.encode values slots) :=
  Refusing.guard fun _ => (refusing_storedFrom hconverts).bind fun _ _ => Refusing.lift _

end SnapshotLayout
end RecordBytes
