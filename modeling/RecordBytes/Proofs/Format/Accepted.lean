import Mathlib
import RecordBytes.Proofs.Data.RoundTrip
import RecordBytes.Proofs.Data.Scanning
import RecordBytes.Proofs.Key.Parts
import RecordBytes.Proofs.Layout.Writable
import RecordBytes.Proofs.Snapshot.RoundTrip

/-!
# What is accepted can be stored again

Readers accept many bytes that no writer makes.  The values that they find in them can be stored nevertheless:
keys, data and snapshots of these values can be written, and are read back as the same values, up to NaNs and
equal decimals in keys and exactly elsewhere.  Only adapters could stand in the way.

Main results:

- `KeyLayout.written_of_decodeSpan`, `DataLayout.written_of_decode`, `SnapshotLayout.finds_readFrom`: what is
  read can be written.
- `accepted_stored_again`: whatever a reader accepts is stored again, and stays as it is.
-/

namespace RecordBytes

open Outcome

/-! ## Keys -/

namespace KeyLayout

variable {layout : KeyLayout}

/-- What is read of a key, or of the part of a key that covers a span, can be written. -/
theorem written_of_decodeSpan {bounds : Bounds} {span : Span} (hspan : layout.resolve bounds = .ok span)
    (hplain : ∀ field ∈ span.slice layout.fields, field.property.adapter = none) {bytes : Bytes}
    {values : List Value} (h : layout.decodeSpan bytes span = .ok values) :
    Cells.stored (span.slice layout.fields) values = .ok values ∧
      values.length = (span.slice layout.fields).length ∧ ∃ again, Written layout span values again := by
  cases hbare : layout.bare? with
  | some field =>
    rcases resolve_of_bare hbare hspan with rfl
    rcases bare?_eq_some hbare with ⟨hfields, hkind, -⟩
    have hslice : (Span.full 1).slice layout.fields = [field] := by simp [Span.slice, Span.full, hfields]
    have hfield : field.property.adapter = none := hplain field (by simp [hslice])
    rw [decodeSpan, hbare] at h
    simp only [decodeBare, bind_eq_ok, pure_eq_ok, lift_damage_eq_ok, Field.logical_of_plain hfield] at h
    rcases h with ⟨value, ⟨body, -, stored, hdecode, ⟨⟩⟩, rfl⟩
    have hstored := Field.stored_of_storable hfield (Bare.storable_of_decode hkind hdecode)
    rw [hslice]
    exact ⟨Cells.stored_cons.mpr ⟨value, [], hstored, rfl, rfl⟩, rfl, _, Written.bare hbare⟩
  | none =>
    rcases (decodeSpan_eq_ok hbare (stop_le_of_resolve hspan)).mp h with ⟨-, body, after, -, hread, -⟩
    have hheld := Cells.finds_read .sortable hplain hread
    rcases hheld.run with ⟨run, hrun⟩
    exact ⟨hheld.stored, hheld.length, _, Written.cells hbare hrun⟩

/-- Values that are stored and written as a part of a key are so out of any values around them. -/
theorem encode_of_written {bounds : Bounds} {span : Span} (hspan : layout.resolve bounds = .ok span)
    {values stored given : List Value} {bytes : Bytes}
    (hstored : Cells.stored (span.slice layout.fields) values = .ok stored)
    (hwritten : Written layout span stored bytes) (hgiven : span.of? given = some values) :
    layout.encode given bounds = .ok bytes := by
  rcases Span.of?_eq_some.mp hgiven with ⟨hstop, rfl⟩
  rw [encode_of_resolve hspan, encodeSpan_eq_ok]
  exact ⟨hstop, stop_le_of_resolve hspan, stored, hstored, hwritten⟩

/-- The values that are read of a key are stored again, and so is what is then read. -/
theorem stored_again {bounds : Bounds} {span : Span} (hspan : layout.resolve bounds = .ok span)
    (hplain : ∀ field ∈ span.slice layout.fields, field.property.adapter = none) {bytes : Bytes}
    {values : List Value} (h : layout.decode bytes bounds = .ok values) :
    values.length = span.size ∧
      ∃ again found,
        (∀ given, span.of? given = some values → layout.encode given bounds = .ok again) ∧
        layout.decode again bounds = .ok found ∧ List.Forall₂ Value.Restores values found ∧
        ∀ given, span.of? given = some found → layout.encode given bounds = .ok again := by
  have hstop := stop_le_of_resolve hspan
  rw [decode_of_resolve hspan] at h
  rcases written_of_decodeSpan hspan hplain h with ⟨hstored, hlength, again, hwritten⟩
  have hsize : values.length = span.size := hlength.trans (span.length_slice hstop)
  -- What stands before the span does not matter: any values do in its place.
  have hbefore : (List.replicate span.start Value.null).length = span.start := List.length_replicate
  rcases Span.of?_eq_some.mp (Span.of?_append hbefore hsize []) with ⟨-, hslice⟩
  rcases decodeSpan_of_written hspan (by rwa [hslice]) hstop hlength hwritten
    (Padding.overwritten_refl _ again) with ⟨hdecode, hrestores, hagain⟩
  have hplainAgain := Cells.stored_restored hplain hstored
  refine ⟨hsize, again, values.map Value.restored, ?_, ?_, hrestores, ?_⟩
  · intro given hgiven
    exact encode_of_written hspan hstored hwritten hgiven
  · rw [decode_of_resolve hspan, hdecode, Cells.logical_of_plain hplain (by simpa using hlength)]
  · intro given hgiven
    exact encode_of_written hspan hplainAgain hagain hgiven

end KeyLayout

/-! ## Data -/

/-- A generation that is read can be written. -/
theorem Generation.finds_read : Finds (fun generation => generation ≤ max) Generation.read := by
  refine Finds.bind (Finds.of_forall fun _ => trivial) ?_
  intro first _
  have hfirst := first.toNat_lt
  have hmax : max = 0x7FFF_FFFF := rfl
  split
  · exact Finds.pure (by omega)
  · refine Finds.bind (Scan.finds_number 3 _) ?_
    intro rest hrest
    exact Finds.pure (by omega)

namespace DataLayout

variable {layout : DataLayout}

/-- A generation that is expected and found can be written. -/
theorem Opens.generation_le {bytes : Bytes} {expected : Option Nat} {cursor : Cursor}
    (h : layout.Opens bytes expected cursor) {number : Nat} (hnumber : expected = some number) :
    number ≤ Generation.max := by
  subst hnumber
  rcases h with ⟨body, -, hforeign⟩
  rcases Reading.bind_eq_ok.mp hforeign with ⟨actual, middle, hread, hsame⟩
  have hle := Generation.finds_read (Reading.ofScan_eq_ok.mp hread)
  by_cases hactual : actual = number
  · rwa [← hactual]
  · rw [if_neg hactual] at hsame
    cases (Reading.pure_eq_ok.mp hsame).1

/-- What is read of data can be written. -/
theorem written_of_decode (hplain : ∀ field ∈ layout.fields, field.property.adapter = none) {bytes : Bytes}
    {expected : Option Nat} {values : List Value} (h : layout.decode bytes expected = .ok values) :
    Cells.stored layout.fields values = .ok values ∧ values.length = layout.fields.length ∧
      (∀ number, expected = some number → number ≤ Generation.max) ∧ ∃ cells, Written layout values cells := by
  rcases decode_eq_ok.mp h with ⟨cursor, after, hopens, hread⟩
  have hmax : ∀ number, expected = some number → number ≤ Generation.max := fun _ => hopens.generation_le
  cases hbare : layout.bare? with
  | some field =>
    rcases bare?_eq_some hbare with ⟨hfields, hkind⟩
    have hfield : field.property.adapter = none := hplain field (by simp [hfields])
    rw [readValues, hbare] at hread
    rcases Reading.bind_eq_ok.mp hread with ⟨value, middle, hvalue, hsame⟩
    rcases Reading.pure_eq_ok.mp hsame with ⟨rfl, -⟩
    have hstorable : field.Storable value := by
      cases hdecode : Bare.decode field.nullable .barePresenceByte cursor.unread with
      | error damage => simp [readBare, hdecode] at hvalue
      | ok stored =>
        simp only [readBare, hdecode, Reading.ofExcept_eq_ok, Field.logical_of_plain hfield] at hvalue
        rcases hvalue with ⟨⟨⟩, -⟩
        exact Bare.storable_of_decode hkind hdecode
    have hstored := Field.stored_of_storable hfield hstorable
    rw [hfields]
    exact ⟨Cells.stored_cons.mpr ⟨value, [], hstored, rfl, rfl⟩, rfl, hmax, _, Written.bare hbare⟩
  | none =>
    rw [readValues_of_not_bare hbare, Reading.upToEnd_eq_ok] at hread
    have hheld := Cells.finds_read .compact hplain hread.1
    rcases hheld.run with ⟨run, hrun⟩
    exact ⟨hheld.stored, hheld.length, hmax, run, Written.cells hbare hrun⟩

/-- The values that are read of data are stored again, and stay as they are. -/
theorem stored_again (hplain : ∀ field ∈ layout.fields, field.property.adapter = none) {bytes : Bytes}
    {expected : Option Nat} {values : List Value} (h : layout.decode bytes expected = .ok values) :
    ∃ again, layout.encode values expected = .ok again ∧ layout.decode again expected = .ok values := by
  rcases written_of_decode hplain h with ⟨hstored, hlength, hmax, cells, hwritten⟩
  refine ⟨_, encode_eq_ok.mpr ⟨hlength, hmax, values, hstored, cells, hwritten, rfl⟩, ?_⟩
  rw [← Cells.logical_of_plain hplain hlength]
  exact decode_of_current (decodeChecked_written hstored hlength hmax hwritten (Padding.overwritten_refl _ _))

end DataLayout

/-! ## Snapshots -/

namespace SnapshotLayout

variable {layout : SnapshotLayout} {slots : Slots}

/-- Values that have the cells of a snapshot, and that come back as they are. -/
structure Settled (slots : Slots) (ordinal : Nat) (fields : List Field) (values : List Value) : Prop where
  length : values.length = fields.length
  cells : ∃ run, CellsFrom slots ordinal fields values run
  reread : rereadFrom slots ordinal fields values = .ok values

/-- What is read of a snapshot can be written, and comes back as it is. -/
theorem finds_readFrom {fields : List Field} (hplain : ∀ field ∈ fields, field.property.adapter = none)
    {states : Slots} {ordinal : Nat}
    (hsame : ∀ index < ordinal + fields.length, states.get index = slots.get index) :
    Finds (Settled slots ordinal fields) (readFrom states ordinal fields) := by
  induction fields generalizing ordinal with
  | nil => exact Finds.pure ⟨rfl, ⟨[], CellsFrom.nil⟩, rfl⟩
  | cons field fields ih =>
    have hfield := hplain field List.mem_cons_self
    have hstate : states.isAssigned ordinal = slots.isAssigned ordinal := by
      rw [Slots.isAssigned, Slots.isAssigned, hsame ordinal (by simp)]
    have hbehind : ∀ index < ordinal + 1 + fields.length, states.get index = slots.get index := by
      intro index hindex
      exact hsame index (by rw [List.length_cons]; omega)
    have hothers := ih (fun next hnext => hplain next (List.mem_cons_of_mem _ hnext)) hbehind
    cases hassigned : slots.isAssigned ordinal with
    | true =>
      rw [readFrom, readField, hstate, hassigned, if_pos rfl]
      refine Finds.bind (Field.finds_read .compact hfield) ?_
      intro value hvalue
      refine Finds.bind hothers ?_
      intro values hvalues
      rcases hvalue.cell with ⟨cell, hcell⟩
      rcases hvalues.cells with ⟨run, hrun⟩
      have hstored := Field.stored_of_storable hfield hvalue.storable
      have hreread : field.reread (slots.isAssigned ordinal) value = .ok value := by
        rw [hassigned, Field.reread, if_pos rfl, hstored, ok_bind, Field.logical_of_plain hfield]
      exact Finds.pure ⟨congrArg Nat.succ hvalues.length, ⟨_, CellsFrom.present hassigned hstored hcell hrun⟩,
        rereadFrom_cons.mpr ⟨value, values, hreread, hvalues.reread, rfl⟩⟩
    | false =>
      rw [readFrom, readField, hstate, hassigned, if_neg Bool.false_ne_true]
      have hzero : Finds (fun value => field.zero = .ok value) (Reading.ofExcept field.zero) := by
        intro cursor after value hrun
        exact (Reading.ofExcept_eq_ok.mp hrun).1
      refine Finds.bind hzero ?_
      intro value hvalue
      refine Finds.bind hothers ?_
      intro values hvalues
      rcases hvalues.cells with ⟨run, hrun⟩
      have hreread : field.reread (slots.isAssigned ordinal) value = .ok value := by
        rw [hassigned, Field.reread, if_neg Bool.false_ne_true, hvalue]
      exact Finds.pure ⟨congrArg Nat.succ hvalues.length, ⟨_, CellsFrom.absent hassigned hrun⟩,
        rereadFrom_cons.mpr ⟨value, values, hreread, hvalues.reread, rfl⟩⟩

/-- The values and states that are read of a snapshot are stored again, and stay as they are. -/
theorem stored_again (hplain : ∀ field ∈ layout.fields, field.property.adapter = none) {bytes : Bytes}
    {row found : Row} {target : Slots} (h : layout.decodeInto bytes row target = .ok (found, slots)) :
    ∃ again, layout.encode found slots = .ok again ∧
      layout.decodeInto again row target = .ok (found, slots) := by
  simp only [decodeInto, guard_eq_ok, contents, bind_eq_ok, lift_damage_eq_ok, inBounds_eq_ok, pure_eq_ok,
    Prod.exists, Reading.runOn_eq_ok, not_not] at h
  rcases h with ⟨hrow, _, states, ⟨_, -, body, -, _, after, hread, ⟨⟩⟩, ⟨⟩⟩
  have hupToEnd : layout.readValues states = (readFrom states 0 layout.fields).upToEnd .afterSnapshot := rfl
  rw [hupToEnd, Reading.upToEnd_eq_ok] at hread
  -- The first slots are the states that were read, so the same properties are assigned under both.
  have hsame : ∀ ordinal < layout.fields.length,
      states.get ordinal = (overwrite target states layout.fields.length).get ordinal := by
    intro ordinal hordinal
    exact ((target.get_replaceFirst _ states.get ordinal).trans (if_pos hordinal)).symm
  have hsettled : Settled (overwrite target states layout.fields.length) 0 layout.fields found := by
    apply finds_readFrom hplain _ hread.1
    intro index hindex
    exact hsame index (by omega)
  rcases hsettled.cells with ⟨run, hrun⟩
  have hencode := encode_eq_ok.mpr ⟨hsettled.length, run, hrun, rfl⟩
  rcases decodeInto_written hencode hrow target with ⟨others, hothers, hdecode⟩
  refine ⟨_, hencode, ?_⟩
  rw [hdecode, hsettled.reread]
  have hslots := target.replaceFirst_congr fun ordinal hordinal =>
    (hothers ordinal hordinal).trans (hsame ordinal hordinal).symm
  rw [hslots]
  rfl

end SnapshotLayout

/-! ## All layouts -/

/-- Whatever a reader accepts is stored again, where no adapter stands between.  The values of a key, or of the
part of a key that bounds name, are written in the place of their span and read back as equal ones, which have
the same key; the values of data, and those and the states of a snapshot, are written and read back exactly. -/
theorem accepted_stored_again :
    (∀ (layout : KeyLayout) (bounds : Bounds) (span : Span) (bytes : Bytes) (values : List Value),
      layout.resolve bounds = .ok span →
        (∀ field ∈ span.slice layout.fields, field.property.adapter = none) →
          layout.decode bytes bounds = .ok values →
            values.length = span.size ∧
              ∃ again found,
                (∀ given, span.of? given = some values → layout.encode given bounds = .ok again) ∧
                layout.decode again bounds = .ok found ∧ List.Forall₂ Value.Restores values found ∧
                ∀ given, span.of? given = some found → layout.encode given bounds = .ok again) ∧
    (∀ (layout : DataLayout) (expected : Option Nat) (bytes : Bytes) (values : List Value),
      (∀ field ∈ layout.fields, field.property.adapter = none) →
        layout.decode bytes expected = .ok values →
          ∃ again, layout.encode values expected = .ok again ∧ layout.decode again expected = .ok values) ∧
    ∀ (layout : SnapshotLayout) (bytes : Bytes) (row found : Row) (target slots : Slots),
      (∀ field ∈ layout.fields, field.property.adapter = none) →
        layout.decodeInto bytes row target = .ok (found, slots) →
          ∃ again, layout.encode found slots = .ok again ∧
            layout.decodeInto again row target = .ok (found, slots) := by
  refine ⟨?_, ?_, ?_⟩
  · intro layout bounds span bytes values hspan hplain hdecode
    exact KeyLayout.stored_again hspan hplain hdecode
  · intro layout expected bytes values hplain hdecode
    exact DataLayout.stored_again hplain hdecode
  · intro layout bytes row found target slots hplain hdecode
    exact SnapshotLayout.stored_again hplain hdecode

/-- Data of a count of any size. -/
def countOnly : DataLayout :=
  ⟨[Field.plain "count" .bigint false .unspecified], ⟨0, 1⟩⟩

/-- A snapshot of a flag and a count of any size. -/
def flagAndSum : SnapshotLayout :=
  ⟨[Field.plain "flag" .bool false .unspecified, Field.plain "sum" .bigint false .unspecified]⟩

/-- A count with needless bytes in a key, one of no bytes at all behind a generation in more bytes than it needs,
and one behind a length and states that no writer makes are all stored again. -/
theorem accepted_stored_again_bigints :
    (∃ again found,
      (∀ given, (Span.full 2).of? given = some [.of .bigint (5 : Int), .of (.signed .w16) 5] →
        KeyLayout.countAndLevel.encode given .all = .ok again) ∧
      KeyLayout.countAndLevel.decode again .all = .ok found ∧
      ∀ given, (Span.full 2).of? given = some found → KeyLayout.countAndLevel.encode given .all = .ok again) ∧
    (∃ again, countOnly.encode [.of .bigint (0 : Int)] (some 5) = .ok again ∧
      countOnly.decode again (some 5) = .ok [.of .bigint (0 : Int)]) ∧
    ∃ found slots, flagAndSum.decode [0x0A, 1, 0x80, 2, 0xFF, 0xFE] = .ok (found, slots) ∧
      slots.get 1 = .dirty ∧
      ∃ again, flagAndSum.encode found slots = .ok again ∧ flagAndSum.decode again = .ok (found, slots) := by
  have hspan : KeyLayout.countAndLevel.resolve .all = .ok (Span.full 2) := rfl
  have hplain : ∀ field ∈ (Span.full 2).slice KeyLayout.countAndLevel.fields,
      field.property.adapter = none := by
    simp [Span.slice, Span.full, KeyLayout.countAndLevel, Field.plain]
  have hkey : KeyLayout.countAndLevel.decode [0xAA, 1, 0x80, 0, 0, 2, 0, 5, 0x7F, 0xFA, 0xBB] .all =
      .ok [.of .bigint (5 : Int), .of (.signed .w16) 5] := by decide
  have hdata : countOnly.decode [0x80, 0, 0, 5, 0, 9] (some 5) = .ok [.of .bigint (0 : Int)] := by decide
  have hsnapshot : ∃ found slots, flagAndSum.decode [0x0A, 1, 0x80, 2, 0xFF, 0xFE] = .ok (found, slots) ∧
      slots.get 1 = .dirty := ⟨_, _, rfl, by decide⟩
  rcases accepted_stored_again.1 _ _ _ _ _ hspan hplain hkey with
    ⟨-, again, found, hencode, hdecode, -, hstable⟩
  refine ⟨⟨again, found, hencode, hdecode, hstable⟩, ?_, ?_⟩
  · exact accepted_stored_again.2.1 countOnly (some 5) _ _ (by simp [countOnly, Field.plain]) hdata
  · rcases hsnapshot with ⟨found, slots, hfound, hdirty⟩
    exact ⟨found, slots, hfound, hdirty,
      accepted_stored_again.2.2 flagAndSum _ _ _ _ _ (by simp [flagAndSum, Field.plain]) hfound⟩

end RecordBytes
