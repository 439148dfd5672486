import Mathlib
import RecordBytes.Layout.Key
import RecordBytes.Proofs.Field.Stored
import RecordBytes.Proofs.Layout.Cells

/-!
# The order of keys

A key that is not bare is the run of the cells of its fields between zero bytes, so keys, and the parts of
keys that cover one span, compare as their stored values do, field by field and each in the order of its
field.

Main results:

- `KeyLayout.encodeSpan_eq_ok`, `KeyLayout.encode_of_resolve`: what is written for a span.
- `KeyLayout.compare_encode`: keys compare as their stored values.
-/

namespace RecordBytes.KeyLayout

open Outcome

/-! ## Written keys -/

/-- What is written for a span whose values are stored as given: the bare byte array, or the run of cells. -/
inductive Written (layout : KeyLayout) (span : Span) (stored : List Value) : Bytes → Prop
  | bare {field : Field} (hbare : layout.bare? = some field) :
      Written layout span stored (layout.padding.wrap (stored.flatMap (Bare.encode field.nullable)))
  | cells {run : Bytes} (hbare : layout.bare? = none)
      (hrun : Cells.encode .sortable (span.slice layout.fields) stored = .ok run) :
      Written layout span stored ((layout.padding.within span).wrap run)

/-- A part of a key is written when the span lies inside the fields and the values, the values can be stored,
and what is stored can be written. -/
theorem encodeSpan_eq_ok {layout : KeyLayout} {values : List Value} {span : Span} {bytes : Bytes} :
    layout.encodeSpan values span = .ok bytes ↔
      span.stop ≤ values.length ∧ span.stop ≤ layout.fields.length ∧
        ∃ stored, Cells.stored (span.slice layout.fields) (span.slice values) = .ok stored ∧
          Written layout span stored bytes := by
  have hrun : ∀ run, layout.run? span = some run ↔ span.stop ≤ layout.fields.length ∧
      run = ⟨.sortable, span.slice layout.fields, layout.padding.within span⟩ := by
    intro run
    simp only [run?, Run.ofSpan?, Option.bind_eq_bind, Option.bind_eq_some_iff, Span.of?_eq_some,
      Option.pure_def, Option.some.injEq]
    constructor
    · intro h
      rcases h with ⟨fields, ⟨hstop, rfl⟩, rfl⟩
      exact ⟨hstop, rfl⟩
    · intro h
      rcases h with ⟨hstop, rfl⟩
      exact ⟨_, ⟨hstop, rfl⟩, rfl⟩
  unfold encodeSpan
  simp only [guard_eq_ok, bind_eq_ok, inBounds_eq_ok, hrun, Span.of?_eq_some, Nat.not_lt]
  constructor
  · intro h
    rcases h with ⟨hvalues, run, ⟨hfields, rfl⟩, values', ⟨-, rfl⟩, stored, hstored, hbytes⟩
    refine ⟨hvalues, hfields, stored, hstored, ?_⟩
    cases hbare : layout.bare? with
    | some field =>
      rw [hbare] at hbytes
      rcases pure_eq_ok.mp hbytes with rfl
      exact Written.bare hbare
    | none =>
      rw [hbare] at hbytes
      rcases Run.encode_eq_ok.mp (lift_refusal_eq_ok.mp hbytes) with ⟨cells, hcells, rfl⟩
      exact Written.cells hbare hcells
  · intro h
    rcases h with ⟨hvalues, hfields, stored, hstored, hwritten⟩
    refine ⟨hvalues, _, ⟨hfields, rfl⟩, _, ⟨hvalues, rfl⟩, stored, hstored, ?_⟩
    cases hwritten with
    | bare hbare => rw [hbare]; rfl
    | cells hbare hcells =>
      rw [hbare]
      exact lift_refusal_eq_ok.mpr (Run.encode_eq_ok.mpr ⟨_, hcells, rfl⟩)

/-- What is written of a key that is not bare is a run of cells. -/
theorem Written.run_of_not_bare {layout : KeyLayout} (hbare : layout.bare? = none) {span : Span}
    {stored : List Value} {bytes : Bytes} (h : Written layout span stored bytes) :
    ∃ run, Cells.encode .sortable (span.slice layout.fields) stored = .ok run ∧
      bytes = (layout.padding.within span).wrap run := by
  cases h with
  | bare hsome => simp [hbare] at hsome
  | cells _ hrun => exact ⟨_, hrun, rfl⟩

/-- The part of a key that bounds name is the part of the span they resolve to. -/
theorem encode_of_resolve {layout : KeyLayout} {bounds : Bounds} {span : Span}
    (hspan : layout.resolve bounds = .ok span) (values : List Value) :
    layout.encode values bounds = layout.encodeSpan values span := by
  rw [encode, hspan]
  rfl

/-! ## Order -/

/-- Equal padding leaves a settled comparison as it is. -/
theorem settled_wrap (padding : Padding) {order : Ordering} {left right : Bytes}
    (h : Bytes.Settled order left right) :
    Bytes.Settled order (padding.wrap left) (padding.wrap right) := by
  unfold Padding.wrap
  exact (h.append_left _).append_right _

/-- Keys that are not bare, and the parts of keys that cover one span, compare as the stored values in the
span do, field by field. -/
theorem compare_encode {layout : KeyLayout} (hbare : layout.bare? = none) {bounds : Bounds} {span : Span}
    (hspan : layout.resolve bounds = .ok span) {left right : List Value} {leftKey rightKey : Bytes}
    (hleft : layout.encode left bounds = .ok leftKey)
    (hright : layout.encode right bounds = .ok rightKey) :
    ∃ leftStored rightStored,
      Cells.stored (span.slice layout.fields) (span.slice left) = .ok leftStored ∧
      Cells.stored (span.slice layout.fields) (span.slice right) = .ok rightStored ∧
      leftStored.length = span.size ∧ rightStored.length = span.size ∧
      compare leftKey rightKey =
        Cells.compare (span.slice layout.fields) leftStored rightStored := by
  rw [encode_of_resolve hspan] at hleft hright
  rcases encodeSpan_eq_ok.mp hleft with ⟨hleftStop, hfields, leftStored, hleftStored, hleftWritten⟩
  rcases encodeSpan_eq_ok.mp hright with ⟨hrightStop, -, rightStored, hrightStored, hrightWritten⟩
  have hleftLength := Cells.length_stored_slice hfields hleftStop hleftStored
  have hrightLength := Cells.length_stored_slice hfields hrightStop hrightStored
  refine ⟨leftStored, rightStored, hleftStored, hrightStored, hleftLength, hrightLength, ?_⟩
  rcases hleftWritten.run_of_not_bare hbare with ⟨leftRun, hleftRun, rfl⟩
  rcases hrightWritten.run_of_not_bare hbare with ⟨rightRun, hrightRun, rfl⟩
  have hruns := Cells.settled_encode (hleftLength.trans hrightLength.symm) hleftRun hrightRun
  exact (settled_wrap _ hruns).compare_eq

/-- The key of a tag that may be missing and sorts downward, and of a level. -/
def tagAndLevel : KeyLayout :=
  ⟨[Field.plain "tag" .bytes true .descending, Field.plain "level" (.signed .w16) false .unspecified],
    ⟨1, 1⟩⟩

/-- The key of a mark that may be missing and sorts downward, and of a level.  The mark is stored as a letter. -/
def markAndLevel : KeyLayout :=
  ⟨[Field.marked true .descending, Field.plain "level" (.signed .w16) false .unspecified], ⟨0, 1⟩⟩

/-- A key with a tag and one without compare as their stored values, and keys with marks as their letters. -/
theorem compare_tagAndLevel :
    (∃ leftStored rightStored,
      Cells.stored tagAndLevel.fields [.of .bytes [0, 9], .of (.signed .w16) 5] = .ok leftStored ∧
      Cells.stored tagAndLevel.fields [.null, .of (.signed .w16) 0xFFFD] = .ok rightStored ∧
      leftStored.length = 2 ∧ rightStored.length = 2 ∧
      compare [0, 0xFE, 0xFF, 0xFE, 0xF6, 0xFF, 0xFF, 0x80, 0x05, 0] [0, 0xFF, 0x7F, 0xFD, (0 : UInt8)] =
        Cells.compare tagAndLevel.fields leftStored rightStored) ∧
    compare [0xFE, 0xFF, 0xFF, 0xFF, 0x86, 0x80, 0x05, 0] [0xFE, 0xFF, 0xFF, 0xFF, 0x91, 0x80, 0x05, (0 : UInt8)] =
      Cells.compare markAndLevel.fields [.of .char 'y', .of (.signed .w16) 5]
        [.of .char 'n', .of (.signed .w16) 5] := by
  constructor
  · have hbare : tagAndLevel.bare? = none := rfl
    have hspan : tagAndLevel.resolve .all = .ok (Span.full 2) := rfl
    have hleft : tagAndLevel.encode [.of .bytes [0, 9], .of (.signed .w16) 5] .all =
        .ok [0, 0xFE, 0xFF, 0xFE, 0xF6, 0xFF, 0xFF, 0x80, 0x05, 0] := by decide
    have hright : tagAndLevel.encode [.null, .of (.signed .w16) 0xFFFD] .all =
        .ok [0, 0xFF, 0x7F, 0xFD, 0] := by decide
    exact compare_encode hbare hspan hleft hright
  · have hbare : markAndLevel.bare? = none := rfl
    have hspan : markAndLevel.resolve .all = .ok (Span.full 2) := rfl
    have hyes : markAndLevel.encode [.of .bool true, .of (.signed .w16) 5] .all =
        .ok [0xFE, 0xFF, 0xFF, 0xFF, 0x86, 0x80, 0x05, 0] := by decide
    have hno : markAndLevel.encode [.of .bool false, .of (.signed .w16) 5] .all =
        .ok [0xFE, 0xFF, 0xFF, 0xFF, 0x91, 0x80, 0x05, 0] := by decide
    rcases compare_encode hbare hspan hyes hno with ⟨_, _, hyesStored, hnoStored, -, -, hcompare⟩
    cases hyesStored
    cases hnoStored
    exact hcompare

end RecordBytes.KeyLayout
