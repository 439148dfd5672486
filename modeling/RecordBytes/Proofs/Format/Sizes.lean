import Mathlib
import RecordBytes.Proofs.Data.Generation
import RecordBytes.Proofs.Key.RoundTrip
import RecordBytes.Proofs.Layout.Writable
import RecordBytes.Proofs.Snapshot.RoundTrip

/-!
# Sizes told beforehand

Every writer knows how many bytes it will write.  The length of a cell is measured on the value, or known from
the kind; the length of a run is the sum of these with its header and its padding; and what is written has just
this length.  Measuring refuses a value only if writing does.  It passes over two things that a writer refuses:
that an integer is too long for its sortable header, and that the scale of a decimal does not fit its four bytes.

Main results:

- `Sortable.measures`, `Compact.measures`: the measured length of a cell, and what is measured in vain.
- `KeyLayout.sizeIn`, `DataLayout.size`: the lengths of keys and data, bare ones included.
- `written_as_measured`: whatever is written has the length that is told beforehand.
-/

namespace RecordBytes

open Outcome

/-! ## Cells -/

/-- A length that is measured beforehand is the length of what is written.  Where nothing can be measured,
nothing is written; what is measured in vain, since nothing is written all the same, is told by the given
condition. -/
structure Measures (size : Except Refusal Nat) (written : Except Refusal Bytes) (vain : Prop) : Prop where
  exact : ∀ bytes, written = .ok bytes → size = .ok bytes.length
  refused : (∃ refusal, size = .error refusal) → ∃ refusal, written = .error refusal
  vain_iff : (∃ length, size = .ok length) ∧ (∃ refusal, written = .error refusal) ↔ vain

theorem Measures.of_exact {size : Except Refusal Nat} {written : Except Refusal Bytes} {vain : Prop}
    (hexact : ∀ bytes, written = .ok bytes → size = .ok bytes.length)
    (hvain : (∃ length, size = .ok length) ∧ ¬ (∃ bytes, written = .ok bytes) ↔ vain) :
    Measures size written vain := by
  refine ⟨hexact, ?_, ?_⟩
  · rintro ⟨refusal, hsize⟩
    rw [exists_error_iff]
    rintro ⟨bytes, hwritten⟩
    cases hsize.symm.trans (hexact bytes hwritten)
  · rw [exists_error_iff]
    exact hvain

section

variable {kind target actual : Kind} {condition : target.Content → Prop}

/-- Only a content of the target kind makes a value of that kind. -/
theorem Value.exists_of_iff {content : kind.Content} :
    (∃ other, Value.of kind content = .of target other ∧ condition other) ↔
      ∃ other, kind = target ∧ Value.of kind content = .of target other ∧ condition other := by
  constructor
  · rintro ⟨other, hvalue, hcondition⟩
    exact ⟨other, (Value.of.inj hvalue).1, hvalue, hcondition⟩
  · rintro ⟨other, -, hvalue, hcondition⟩
    exact ⟨other, hvalue, hcondition⟩

theorem Value.not_exists_of {content : actual.Content} (hkind : actual ≠ kind) :
    ¬ ∃ other, kind = target ∧ Value.of actual content = .of target other ∧ condition other := by
  rintro ⟨other, rfl, hvalue, -⟩
  exact hkind (Value.of.inj hvalue).1

end

namespace Sortable

/-- Of contents, only an integer whose length no header can tell is measured in vain. -/
theorem vain_content_iff (kind : Kind) {content : kind.Content} :
    (∃ size, contentSize kind content = .ok size) ∧ ¬ (∃ form, encodeContent kind content = .ok form) ↔
      ∃ number : Int, Value.of kind content = .of .bigint number ∧
        Bigint.maxSize < TwosComplement.size number := by
  rw [exists_form_iff]
  cases kind with
  | bigint => simp [contentSize, Writable]
  | decimal =>
    have hsize : (∃ size, contentSize .decimal content = .ok size) → Writable .decimal content := by
      rintro ⟨size, hsize⟩ hne
      cases hexponent : Decimal.exponent? content with
      | some exponent => exact ⟨exponent, rfl⟩
      | none => simp [contentSize, SortableDecimal.size, hne, hexponent] at hsize
    simpa using hsize
  | bool | char | signed | unsigned | float | text | bytes | lob => simp [Writable]

/-- The cell of a value has the measured length; only an integer whose length no header can tell is measured in
vain. -/
theorem measures (kind : Kind) (nullable : Bool) (order : SortOrder) (value : Value) :
    Measures (size kind nullable value) (encode kind nullable order value)
      (∃ number : Int, kind = .bigint ∧ value = .of .bigint number ∧
        Bigint.maxSize < TwosComplement.size number) := by
  apply Measures.of_exact fun _ => size_of_encode
  simp only [encode, exists_map_eq_ok]
  cases value with
  | null => cases nullable <;> simp [size, encodeUpward]
  | of actual content =>
    by_cases hkind : actual = kind
    · subst hkind
      refine Iff.trans ?_ (@Value.exists_of_iff actual .bigint _ content)
      simp only [size, encodeUpward, Value.content?_of, bind_pure_comp, exists_map_eq_ok]
      exact vain_content_iff actual
    · refine iff_of_false ?_ (@Value.not_exists_of kind .bigint actual _ content hkind)
      rintro ⟨⟨length, hsize⟩, -⟩
      simp [size, Value.content?, hkind] at hsize

end Sortable

namespace Compact

theorem exists_sizeWithLength_iff {length : Nat} :
    (∃ size, sizeWithLength length = .ok size) ↔ length < 0x1_0000_0000 := by
  rw [sizeWithLength, bind_pure_comp, exists_map_eq_ok, ← LengthPrefix.length_encode]
  exact exists_map_eq_ok.trans LengthPrefix.exists_form_iff

/-- Of contents, only a decimal whose scale does not fit four bytes is measured in vain. -/
theorem vain_content_iff (kind : Kind) {content : kind.Content} :
    (∃ size, contentSize kind content = .ok size) ∧ ¬ (∃ form, encodeContent kind content = .ok form) ↔
      ∃ decimal, Value.of kind content = .of .decimal decimal ∧
        TwosComplement.size decimal.unscaled < 0x1_0000_0000 ∧
        (decimal.scale.toInt < -0x8000_0000 ∨ 0x8000_0000 ≤ decimal.scale.toInt) := by
  rw [exists_form_iff]
  cases kind with
  | text | bytes | bigint => simp [contentSize, exists_sizeWithLength_iff, Writable]
  | decimal =>
    simp only [contentSize, bind_pure_comp, exists_map_eq_ok, exists_sizeWithLength_iff, Writable]
    constructor
    · rintro ⟨hfits, hrefused⟩
      exact ⟨content, rfl, hfits, by omega⟩
    · rintro ⟨decimal, ⟨⟩, hfits, hscale⟩
      exact ⟨hfits, by omega⟩
  | bool | char | signed | unsigned | float | lob => simp [Writable]

/-- The cell of a value has the measured length; only a decimal whose scale does not fit four bytes is measured
in vain. -/
theorem measures (kind : Kind) (nullable : Bool) (value : Value) :
    Measures (size kind nullable value) (encode kind nullable value)
      (∃ decimal, kind = .decimal ∧ value = .of .decimal decimal ∧
        TwosComplement.size decimal.unscaled < 0x1_0000_0000 ∧
        (decimal.scale.toInt < -0x8000_0000 ∨ 0x8000_0000 ≤ decimal.scale.toInt)) := by
  apply Measures.of_exact fun _ => size_of_encode
  cases value with
  | null => cases nullable <;> simp [size, encode]
  | of actual content =>
    by_cases hkind : actual = kind
    · subst hkind
      refine Iff.trans ?_ (@Value.exists_of_iff actual .decimal _ content)
      simp only [size, encode, Value.content?_of, bind_pure_comp, exists_map_eq_ok]
      exact vain_content_iff actual
    · refine iff_of_false ?_ (Value.not_exists_of hkind)
      rintro ⟨⟨length, hsize⟩, -⟩
      simp [size, Value.content?, hkind] at hsize

end Compact

/-! ## Runs -/

/-- Bare bodies one after another have the length of their sum. -/
theorem Bare.length_flatMap_encode (nullable : Bool) (stored : List Value) :
    (stored.flatMap (Bare.encode nullable)).length = (stored.map (Bare.size nullable)).sum := by
  rw [List.length_flatMap]
  simp

/-- Where the length of a run is fixed, it is the measured length of any values. -/
theorem Cells.size_of_fixedSize {form : Form} {fields : List Field} {stored : List Value} {fixed : Nat}
    (hlength : stored.length = fields.length) (h : fixedSize form fields = some fixed) :
    size form fields stored = .ok fixed := by
  induction fields generalizing stored fixed with
  | nil =>
    rcases Option.some.inj h with rfl
    simp [size]
  | cons field fields ih =>
    rcases List.exists_cons_of_length_eq_add_one hlength with ⟨value, stored, rfl⟩
    simp only [fixedSize, Option.bind_eq_bind, Option.bind_eq_some_iff, Option.pure_def,
      Option.some.injEq] at h
    rcases h with ⟨first, hfirst, rest, hrest, rfl⟩
    simp [size, cellSize, hfirst, ih (Nat.succ.inj hlength) hrest, pure, Except.pure]

namespace Run

variable {run : Run} {header bytes : Bytes} {stored : List Value}

/-- A run has the length that is computed from its header, its padding and its values. -/
theorem size_of_encode (h : run.encode header stored = .ok bytes) :
    run.size header.length stored = .ok bytes.length := by
  rcases Run.encode_eq_ok.mp h with ⟨cells, hcells, rfl⟩
  have hlength : run.padding.size + header.length + cells.length =
      (run.padding.wrap (header ++ cells)).length := by
    rw [Padding.length_wrap, List.length_append, Nat.add_assoc]
  rw [size, Cells.size_of_encode hcells, ok_bind, hlength]
  rfl

/-- Where the length of a run without a header is fixed, every such run has it. -/
theorem length_of_fixedSize (hcount : stored.length = run.fields.length) (h : run.encode [] stored = .ok bytes)
    {fixed : Nat} (hfixed : run.fixedSize = some fixed) : bytes.length = fixed := by
  rcases Option.map_eq_some_iff.mp hfixed with ⟨cells, hcells, rfl⟩
  have hsize := size_of_encode h
  rw [size, Cells.size_of_fixedSize hcount hcells, ok_bind] at hsize
  exact (Except.ok.inj hsize).symm

/-- No run is shorter than its least length and its header. -/
theorem leastSize_le (hcount : stored.length = run.fields.length) (h : run.encode header stored = .ok bytes) :
    run.leastSize + header.length ≤ bytes.length := by
  rcases Run.encode_eq_ok.mp h with ⟨cells, hcells, rfl⟩
  have hleast := Cells.leastSize_le hcount hcells
  rw [Padding.length_wrap, List.length_append, leastSize]
  omega

end Run

/-! ## Keys -/

namespace KeyLayout

variable {layout : KeyLayout}

/-- The length of the part of a key that is the given run, or of a bare key. -/
def sizeIn (layout : KeyLayout) (run : Run) (stored : List Value) : Except Refusal Nat :=
  match layout.bare? with
  | some field => .ok (layout.padding.size + (stored.map (Bare.size field.nullable)).sum)
  | none => run.size 0 stored

/-- A part of a key has the length that is told beforehand: the measured one, which is the fixed one where there
is one, and never less than the least one. -/
structure Sized (layout : KeyLayout) (run : Run) (stored : List Value) (bytes : Bytes) : Prop where
  measured : layout.sizeIn run stored = .ok bytes.length
  fixed : ∀ length, run.fixedSize = some length → bytes.length = length
  least : layout.leastSizeIn run ≤ bytes.length

theorem sized_of_bare {field : Field} (hbare : layout.bare? = some field) {run : Run}
    (hfields : run.fields = [field]) (hform : run.form = .sortable) (value : Value) :
    Sized layout run [value] (layout.padding.wrap (Bare.encode field.nullable value)) := by
  rcases bare?_eq_some hbare with ⟨-, hkind, -⟩
  refine ⟨?_, ?_, ?_⟩
  · simp [sizeIn, hbare, Padding.length_wrap]
  · -- A byte array has no fixed length, so the run has none.
    intro length hfixed
    simp [Run.fixedSize, hfields, hform, Cells.fixedSize, Field.fixedSize, Sortable.fixedSize, hkind,
      Kind.width?] at hfixed
  · rw [leastSizeIn, hbare, Padding.length_wrap, Bare.length_encode]
    simp only [bareLeastSize, Bare.size, Padding.size]
    omega

theorem sized_of_cells (hbare : layout.bare? = none) {run : Run} {stored : List Value} {bytes : Bytes}
    (hcount : stored.length = run.fields.length) (h : run.encode [] stored = .ok bytes) :
    Sized layout run stored bytes := by
  refine ⟨?_, fun length => Run.length_of_fixedSize hcount h, ?_⟩
  · rw [sizeIn, hbare]
    exact Run.size_of_encode h
  · rw [leastSizeIn, hbare]
    exact Run.leastSize_le hcount h

/-- A key, or the part of a key that bounds name, has the length that is told beforehand. -/
theorem sized_of_encode {values : List Value} {bounds : Bounds} {bytes : Bytes}
    (h : layout.encode values bounds = .ok bytes) :
    ∃ span run stored, layout.resolve bounds = .ok span ∧ layout.run? span = some run ∧
      Cells.stored run.fields (span.slice values) = .ok stored ∧ Sized layout run stored bytes := by
  rcases bind_eq_ok.mp h with ⟨span, hspan, hpart⟩
  rcases encodeSpan_eq_ok.mp hpart with ⟨hvalues, hstop, stored, hstored, hwritten⟩
  have hcount : stored.length = (span.slice layout.fields).length :=
    (Cells.length_stored_slice hstop hvalues hstored).trans (span.length_slice hstop).symm
  refine ⟨span, _, stored, lift_refusal_eq_ok.mp hspan, run?_of_stop_le hstop, hstored, ?_⟩
  cases hwritten with
  | @bare field hbare =>
    rcases resolve_of_bare hbare (lift_refusal_eq_ok.mp hspan) with rfl
    have hslice : (Span.full 1).slice layout.fields = [field] := by
      simp [Span.slice, Span.full, (bare?_eq_some hbare).1]
    rw [hslice] at hcount
    rcases List.length_eq_one_iff.mp hcount with ⟨value, rfl⟩
    rw [List.flatMap_singleton]
    exact sized_of_bare hbare hslice rfl value
  | @cells cells hbare hcells => exact sized_of_cells hbare hcount (Run.encode_eq_ok.mpr ⟨cells, hcells, rfl⟩)

/-- The bounds of the whole key name the run of all fields, whose length is fixed where that of every key is. -/
theorem run?_all {span : Span} (h : layout.resolve .all = .ok span) : layout.run? span = some layout.run := by
  rw [resolve_all, Except.ok.injEq] at h
  subst h
  rw [run?_of_stop_le (Nat.le_refl _), Span.slice_head, List.take_length]
  simp [run, Padding.within, Span.head, Span.isHead, Span.isTail]

end KeyLayout

/-! ## Data -/

/-- The number of bytes that a generation takes, or none. -/
def Generation.tagSize (generation : Option Nat) : Nat :=
  generation.elim 0 Generation.size

theorem Generation.length_tag (generation : Option Nat) : (tag generation).length = tagSize generation := by
  cases generation with
  | none => rfl
  | some number => exact length_encode number

namespace DataLayout

variable {layout : DataLayout}

/-- The length of data, for the stored values of all fields. -/
def size (layout : DataLayout) (generation : Option Nat) (stored : List Value) : Except Refusal Nat :=
  match layout.bare? with
  | some field =>
    .ok (layout.padding.size + Generation.tagSize generation + (stored.map (Bare.size field.nullable)).sum)
  | none => layout.run.size (Generation.tagSize generation) stored

/-- Data has the length that is told beforehand, which is never less than the least one. -/
theorem sized_of_encode {values : List Value} {generation : Option Nat} {bytes : Bytes}
    (h : layout.encode values generation = .ok bytes) :
    ∃ stored, Cells.stored layout.fields values = .ok stored ∧
      layout.size generation stored = .ok bytes.length ∧
      layout.leastSize + Generation.tagSize generation ≤ bytes.length := by
  rcases encode_eq_ok.mp h with ⟨hcount, -, stored, hstored, cells, hwritten, rfl⟩
  have hlength : stored.length = layout.fields.length := by
    rw [Cells.length_stored hstored, hcount, Nat.min_self]
  have hleast := hwritten.leastSize_le hlength
  refine ⟨stored, hstored, ?_, ?_⟩
  · rw [size]
    cases hwritten with
    | bare hbare =>
      simp only [hbare, Padding.length_wrap, List.length_append, Generation.length_tag,
        Bare.length_flatMap_encode, Nat.add_assoc]
    | cells hbare hrun =>
      rw [hbare, ← Generation.length_tag]
      exact Run.size_of_encode (Run.encode_eq_ok.mpr ⟨_, hrun, rfl⟩)
  · rw [Padding.length_wrap, List.length_append, Generation.length_tag]
    omega

end DataLayout

/-! ## Snapshots -/

/-- A snapshot has the length that is told beforehand. -/
theorem SnapshotLayout.sized_of_encode {layout : SnapshotLayout} {values : List Value} {slots : Slots}
    {bytes : Bytes} (h : layout.encode values slots = .ok bytes) :
    ∃ stored, layout.stored values slots = .ok stored ∧ layout.size stored = .ok bytes.length := by
  unfold encode at h
  simp only [guard_eq_ok, bind_eq_ok, lift_refusal_eq_ok] at h
  rcases h with ⟨-, stored, hstored, hbytes⟩
  have hsize := Run.size_of_encode hbytes
  rw [Slots.length_toBytes] at hsize
  exact ⟨stored, hstored, hsize⟩

/-! ## All writers -/

/-- Whatever is written has the length that is told beforehand.  That holds of a cell in either form, of a key or
the part of a key that bounds name, of data behind any generation, and of a snapshot.  A cell that cannot be
measured is not written.  Only two kinds of value are measured and refused all the same: in a sortable cell an
integer of more bytes than a header can tell, and in a compact cell a decimal whose scale does not fit four
bytes. -/
theorem written_as_measured :
    (∀ (kind : Kind) (nullable : Bool) (order : SortOrder) (value : Value),
      Measures (Sortable.size kind nullable value) (Sortable.encode kind nullable order value)
        (∃ number : Int, kind = .bigint ∧ value = .of .bigint number ∧
          Bigint.maxSize < TwosComplement.size number)) ∧
    (∀ (kind : Kind) (nullable : Bool) (value : Value),
      Measures (Compact.size kind nullable value) (Compact.encode kind nullable value)
        (∃ decimal, kind = .decimal ∧ value = .of .decimal decimal ∧
          TwosComplement.size decimal.unscaled < 0x1_0000_0000 ∧
          (decimal.scale.toInt < -0x8000_0000 ∨ 0x8000_0000 ≤ decimal.scale.toInt))) ∧
    (∀ (layout : KeyLayout) (values : List Value) (bounds : Bounds) (key : Bytes),
      layout.encode values bounds = .ok key →
        ∃ span run stored, layout.resolve bounds = .ok span ∧ layout.run? span = some run ∧
          (bounds = .all → run = layout.run) ∧ Cells.stored run.fields (span.slice values) = .ok stored ∧
          layout.Sized run stored key) ∧
    (∀ (layout : DataLayout) (values : List Value) (generation : Option Nat) (bytes : Bytes),
      layout.encode values generation = .ok bytes →
        ∃ stored, Cells.stored layout.fields values = .ok stored ∧
          layout.size generation stored = .ok bytes.length ∧
          layout.leastSize + Generation.tagSize generation ≤ bytes.length) ∧
    ∀ (layout : SnapshotLayout) (values : List Value) (slots : Slots) (bytes : Bytes),
      layout.encode values slots = .ok bytes →
        ∃ stored, layout.stored values slots = .ok stored ∧ layout.size stored = .ok bytes.length := by
  refine ⟨Sortable.measures, Compact.measures, ?_, ?_, ?_⟩
  · intro layout values bounds key hencode
    rcases KeyLayout.sized_of_encode hencode with ⟨span, run, stored, hspan, hrun, hstored, hsized⟩
    refine ⟨span, run, stored, hspan, hrun, ?_, hstored, hsized⟩
    rintro rfl
    exact Option.some.inj (hrun.symm.trans (KeyLayout.run?_all hspan))
  · intro layout values generation bytes hencode
    exact DataLayout.sized_of_encode hencode
  · intro layout values slots bytes hencode
    exact SnapshotLayout.sized_of_encode hencode

/-- A decimal of too large a scale is measured in vain; a key, data and a snapshot have their lengths. -/
theorem written_as_measured_decimal :
    ((∃ length, Compact.size .decimal false (.of .decimal ⟨7, 0x8000_0000⟩) = .ok length) ∧
      ∃ refusal, Compact.encode .decimal false (.of .decimal ⟨7, 0x8000_0000⟩) = .error refusal) ∧
    (∃ stored, Cells.stored KeyLayout.tagAndLevel.fields [.of .bytes [0, 9], .of (.signed .w16) 5] =
        .ok stored ∧
      KeyLayout.tagAndLevel.Sized KeyLayout.tagAndLevel.run stored
        [0, 0xFE, 0xFF, 0xFE, 0xF6, 0xFF, 0xFF, 0x80, 0x05, 0]) ∧
    (∃ stored, Cells.stored DataLayout.flagAndCount.fields [.of .bool true, .of (.signed .w64) 7] = .ok stored ∧
      DataLayout.flagAndCount.size (some 1) stored = .ok 10 ∧
      DataLayout.flagAndCount.leastSize + Generation.tagSize (some 1) ≤ 10) ∧
    ∃ stored, SnapshotLayout.flagCountLabel.stored [.of .bool true, .null, .of .text "unread"]
        ((Slots.empty 2).set 0 .dirty) = .ok stored ∧
      SnapshotLayout.flagCountLabel.size stored = .ok 2 := by
  have hkey : KeyLayout.tagAndLevel.encode [.of .bytes [0, 9], .of (.signed .w16) 5] .all =
      .ok [0, 0xFE, 0xFF, 0xFE, 0xF6, 0xFF, 0xFF, 0x80, 0x05, 0] := by decide
  have hdata : DataLayout.flagAndCount.encode [.of .bool true, .of (.signed .w64) 7] (some 1) =
      .ok [1, 1, 0, 0, 0, 0, 0, 0, 0, 7] := by decide
  have hsnapshot : SnapshotLayout.flagCountLabel.encode [.of .bool true, .null, .of .text "unread"]
      ((Slots.empty 2).set 0 .dirty) = .ok [3, 1] := by decide
  have hscale : TwosComplement.size 7 < 0x1_0000_0000 ∧
      ((0x8000_0000 : Int64).toInt < -0x8000_0000 ∨ 0x8000_0000 ≤ (0x8000_0000 : Int64).toInt) := by decide
  rcases written_as_measured with ⟨-, hcompact, hkeys, hdatas, hsnapshots⟩
  refine ⟨?_, ?_, hdatas _ _ _ _ hdata, hsnapshots _ _ _ _ hsnapshot⟩
  · exact (hcompact .decimal false (.of .decimal ⟨7, 0x8000_0000⟩)).vain_iff.mpr
      ⟨⟨7, 0x8000_0000⟩, rfl, rfl, hscale⟩
  · rcases hkeys _ _ _ _ hkey with ⟨span, run, stored, hspan, -, hall, hstored, hsized⟩
    rcases hall rfl with rfl
    rcases Except.ok.inj hspan with rfl
    exact ⟨stored, hstored, hsized⟩

end RecordBytes
