import Mathlib
import RecordBytes.Proofs.Data.Scanning
import RecordBytes.Proofs.Key.Parts
import RecordBytes.Proofs.Layout.Resized
import RecordBytes.Proofs.Snapshot.RoundTrip

/-!
# Written forms cut short or extended

Where no adapter stands between, bytes that can be read as a part of a key, as data or as a snapshot can be read
at that length only: cut short or extended they are found damaged, whatever then comes to stand in the place of
the padding.  Keys and data of a bare byte array are the exception, since they run to the end of their body.

Main results:

- `KeyLayout.decode_of_resized`, `DataLayout.decodeChecked_of_resized`, `SnapshotLayout.contents_of_resized`:
  bytes that can be read, cut short or extended.
- `encoded_resized_refused`: what is written, cut short or extended.
-/

namespace RecordBytes

open Outcome

/-! ## Keys -/

namespace KeyLayout

variable {layout : KeyLayout} {bounds : Bounds} {span : Span}

/-- Between the padding of a resized string is a resized one, unless the string is found too short. -/
theorem body_of_resized {needed : Nat} {padding : Padding} {whole content given : Bytes}
    (hneeded : padding.size ≤ needed) (hstrip : padding.strip? whole = some content)
    (hresized : Bytes.Resized whole given) :
    body needed padding given = .error (.corrupt (.keyTooShort needed given.length)) ∨
      ∃ other, body needed padding given = .ok other ∧ Bytes.Resized content other := by
  rcases Nat.lt_or_ge given.length needed with hshort | hlong
  · exact Or.inl (if_pos hshort)
  · rcases Padding.strip?_of_resized hstrip hresized (hneeded.trans hlong) with ⟨other, hother, hcontent⟩
    exact Or.inr ⟨other, body_eq_ok.mpr ⟨hlong, hother⟩, hcontent⟩

/-- The part of a key that can be read cannot when it is cut short or extended. -/
theorem decode_of_resized (hbare : layout.bare? = none) (hspan : layout.resolve bounds = .ok span)
    (hplain : ∀ field ∈ span.slice layout.fields, field.property.adapter = none) {whole given : Bytes}
    {values : List Value} (h : layout.decode whole bounds = .ok values) (hresized : Bytes.Resized whole given) :
    ∃ fault, layout.decode given bounds = .error fault ∧ fault.IsPlain := by
  have hstop := stop_le_of_resolve hspan
  rw [decode_of_resolve hspan] at h ⊢
  rcases (decodeSpan_eq_ok hbare hstop).mp h with ⟨-, content, after, hstrip, hread, hend⟩
  have hexact : Reading.Exact ((Cells.read .sortable (span.slice layout.fields)).upToEnd .afterKey)
      (Cursor.start content 0) :=
    Reading.exact_upToEnd (Cells.confined_read_plain hplain) hread hend fun _ => rfl
  have hneeded : (layout.padding.within span).size ≤
      Run.leastSize ⟨.sortable, span.slice layout.fields, layout.padding.within span⟩ := Nat.le_add_right _ _
  rw [decodeSpan_of_not_bare hbare hstop]
  rcases body_of_resized hneeded hstrip hresized with hshort | ⟨other, hother, hcontent⟩
  · exact ⟨_, by rw [hshort]; rfl, rfl, rfl⟩
  · rcases hexact.runOn hcontent with ⟨fault, hrun, hfault⟩
    exact ⟨fault, by rw [hother, ok_bind, hrun]; rfl, hfault⟩

/-- The part of a key that was written can be read, whatever its padding holds. -/
theorem exists_decode {values : List Value} {bytes framed : Bytes} (hbare : layout.bare? = none)
    (hspan : layout.resolve bounds = .ok span)
    (hplain : ∀ field ∈ span.slice layout.fields, field.property.adapter = none)
    (hencode : layout.encode values bounds = .ok bytes)
    (hframed : (layout.padding.within span).Overwritten bytes framed) :
    ∃ found, layout.decode framed bounds = .ok found := by
  rw [encode_of_resolve hspan] at hencode
  rcases encodeSpan_eq_ok.mp hencode with ⟨hvalues, hstop, stored, hstored, hwritten⟩
  rcases hwritten.run_of_not_bare hbare with ⟨run, hrun, rfl⟩
  have hlength : stored.length = (span.slice layout.fields).length :=
    (Cells.length_stored_slice hstop hvalues hstored).trans (span.length_slice hstop).symm
  refine ⟨stored.map Value.restored, ?_⟩
  rw [decode_of_resolve hspan, decodeSpan_of_cells hbare hstop hlength hrun hframed,
    Cells.logical_of_plain hplain (by rw [List.length_map, hlength])]

end KeyLayout

/-! ## Data -/

namespace DataLayout

variable {layout : DataLayout} {expected : Option Nat}

/-- Data that can be read cannot when it is cut short or extended. -/
theorem decodeChecked_of_resized (hbare : layout.bare? = none)
    (hplain : ∀ field ∈ layout.fields, field.property.adapter = none) {whole given : Bytes}
    {values : List Value} (h : layout.decode whole expected = .ok values)
    (hresized : Bytes.Resized whole given) :
    ∃ fault, layout.decodeChecked given expected = .error fault ∧ fault.IsPlain := by
  rcases decode_eq_ok.mp h with ⟨cursor, after, ⟨content, hcontent, hforeign⟩, hvalues⟩
  rw [readValues_of_not_bare hbare] at hvalues
  rcases Reading.upToEnd_eq_ok.mp hvalues with ⟨hread, hend⟩
  have hcells : Reading.Exact layout.readValues cursor := by
    rw [readValues_of_not_bare hbare]
    exact Reading.exact_upToEnd (Cells.confined_read_plain hplain) hread hend fun _ => rfl
  have hexact : Reading.Exact (readBehind expected layout.readValues) (Cursor.start content 0) :=
    Reading.Exact.bind (confined_readForeign expected) hforeign (hcells.and_then _)
  rcases Nat.lt_or_ge given.length (layout.leastSizeWith expected) with hshort | hlong
  · exact ⟨_, by rw [decodeChecked, body, if_pos hshort]; rfl, rfl, rfl⟩
  · have hsize : layout.padding.size ≤ given.length := by
      rw [leastSizeWith, leastSize_of_not_bare hbare] at hlong
      omega
    rcases Padding.strip?_of_resized (body_eq_ok.mp hcontent).2 hresized hsize with
      ⟨other, hother, hcontent⟩
    rcases hexact.runOn hcontent with ⟨fault, hrun, hfault⟩
    exact ⟨fault, by rw [decodeChecked, body_eq_ok.mpr ⟨hlong, hother⟩, ok_bind, hrun]; rfl, hfault⟩

/-- Data that was written can be read behind its generation, whatever its padding holds. -/
theorem exists_decode {values : List Value} {generation : Option Nat} {bytes framed : Bytes}
    (hplain : ∀ field ∈ layout.fields, field.property.adapter = none)
    (hencode : layout.encode values generation = .ok bytes)
    (hframed : layout.padding.Overwritten bytes framed) :
    ∃ found, layout.decode framed generation = .ok found := by
  rcases encode_eq_ok.mp hencode with ⟨hcount, hmax, stored, hstored, cells, hwritten, rfl⟩
  have hlength : stored.length = layout.fields.length := by
    rw [Cells.length_stored hstored, hcount, Nat.min_self]
  refine ⟨stored, ?_⟩
  rw [decode_of_current (decodeChecked_written hstored hlength hmax hwritten hframed),
    Cells.logical_of_plain hplain hlength]

end DataLayout

/-! ## Snapshots -/

namespace SnapshotLayout

variable {layout : SnapshotLayout} {slots : Slots}

/-- Without adapters, the reader of the fields from an ordinal on finds nothing but plain damage. -/
theorem confined_readFrom {fields : List Field} (hplain : ∀ field ∈ fields, field.property.adapter = none)
    (slots : Slots) (ordinal : Nat) : Confined Fault.IsPlain 0 (readFrom slots ordinal fields) := by
  induction fields generalizing ordinal with
  | nil => exact Confined.pure []
  | cons field fields ih =>
    have hfirst : Confined Fault.IsPlain 0 (readField slots field ordinal) := by
      have hadapter := hplain field List.mem_cons_self
      unfold readField
      split
      · have hread : Confined Fault.IsPlain _ (field.read .compact) :=
          Field.confined_read (fun _ hfault => hfault) (Field.adaptsWithin_of_plain hadapter)
        exact hread.weaken (Nat.zero_le _)
      · rw [Field.zero_of_plain hadapter]
        exact Confined.pure _
    apply hfirst.bind_free
    intro first
    have hothers := ih (fun next hnext => hplain next (List.mem_cons_of_mem _ hnext)) (ordinal + 1)
    exact hothers.bind_free fun rest => Confined.pure _

theorem contents_of_short {bytes : Bytes} (h : bytes.length < layout.stateSize) :
    layout.contents bytes = .error (.corrupt (.stateBytes layout.stateSize bytes.length)) := by
  have hstates : Slots.ofBytes bytes layout.fields.length =
      .error (.stateBytes layout.stateSize bytes.length) := if_pos h
  rw [contents, hstates]
  rfl

/-- The fields are read behind the states. -/
theorem contents_append {states : Bytes} (h : states.length = layout.stateSize) (run : Bytes) :
    layout.contents (states ++ run) = (do
      let slots ← Slots.ofBytes states layout.fields.length
      let (values, _) ← (layout.readValues slots).runOn run
      return (values, slots)) := by
  have hrun : slice? (states ++ run) layout.stateSize (states ++ run).length = some run := by
    rw [slice?_eq_some, List.take_length, List.drop_left' h, List.length_append, h]
    exact ⟨⟨Nat.le_add_right _ _, Nat.le_refl _⟩, rfl⟩
  rw [contents, Slots.ofBytes_append h, hrun]
  rfl

/-- A snapshot that can be read cannot when it is cut short or extended. -/
theorem contents_of_resized (hplain : ∀ field ∈ layout.fields, field.property.adapter = none)
    {whole given : Bytes} {found : List Value × Slots} (h : layout.contents whole = .ok found)
    (hresized : Bytes.Resized whole given) :
    ∃ fault, layout.contents given = .error fault ∧ fault.IsPlain := by
  have hlong : layout.stateSize ≤ whole.length := by
    by_contra hshort
    rw [contents_of_short (Nat.lt_of_not_le hshort)] at h
    cases h
  have hstates : (whole.take layout.stateSize).length = layout.stateSize := List.length_take_of_le hlong
  rw [← List.take_append_drop layout.stateSize whole] at h hresized
  rw [contents_append hstates] at h
  simp only [bind_eq_ok, pure_eq_ok, Prod.exists, Reading.runOn_eq_ok, lift_damage_eq_ok] at h
  rcases h with ⟨slots, hslots, values, after, hvalues, -⟩
  rcases Reading.upToEnd_eq_ok.mp hvalues with ⟨hread, hend⟩
  have hexact : Reading.Exact (layout.readValues slots) (Cursor.start (whole.drop layout.stateSize) 0) :=
    Reading.exact_upToEnd (confined_readFrom hplain slots 0) hread hend fun _ => rfl
  rcases hresized.behind with hshort | ⟨other, rfl, hother⟩
  · rw [hstates] at hshort
    exact ⟨_, contents_of_short hshort, rfl, rfl⟩
  · rcases hexact.runOn hother with ⟨fault, hrun, hfault⟩
    exact ⟨fault, by rw [contents_append hstates, hslots, lift_damage_ok, ok_bind, hrun]; rfl, hfault⟩

/-- A snapshot that was written can be read. -/
theorem exists_contents (hplain : ∀ field ∈ layout.fields, field.property.adapter = none)
    {values : List Value} {bytes : Bytes} (hencode : layout.encode values slots = .ok bytes) :
    ∃ found, layout.contents bytes = .ok found := by
  rcases encode_eq_ok.mp hencode with ⟨-, run, hrun, -⟩
  rcases hrun.exists_rereadFrom hplain with ⟨found, hfound⟩
  rcases contents_written hencode with ⟨states, -, hcontents⟩
  rw [hfound] at hcontents
  exact ⟨_, hcontents⟩

/-- What cannot be taken from a snapshot is not put into a row. -/
theorem decodeInto_of_error {bytes : Bytes} {fault : Fault} (h : layout.contents bytes = .error fault)
    {row : Row} (hrow : row.length = layout.fields.length) (target : Slots) :
    layout.decodeInto bytes row target = .error fault := by
  rw [decodeInto, if_neg (not_not.mpr hrow), h]
  rfl

end SnapshotLayout

/-! ## Written forms -/

/-- What is written, cut short or extended, is found damaged and is no mismatch of generations: the part of a
key for any bounds, data behind any generation, and a snapshot.  That holds whatever is put in the place of the
padding, for fields without adapters, unless the key or the data is one bare byte array. -/
theorem encoded_resized_refused :
    (∀ (layout : KeyLayout) (bounds : Bounds) (span : Span) (values : List Value) (bytes framed given : Bytes),
      layout.bare? = none → layout.resolve bounds = .ok span →
        (∀ field ∈ span.slice layout.fields, field.property.adapter = none) →
          layout.encode values bounds = .ok bytes → (layout.padding.within span).Overwritten bytes framed →
            Bytes.Resized framed given →
              ∃ fault, layout.decode given bounds = .error fault ∧ fault.IsPlain) ∧
    (∀ (layout : DataLayout) (values : List Value) (generation : Option Nat) (bytes framed given : Bytes),
      layout.bare? = none → (∀ field ∈ layout.fields, field.property.adapter = none) →
        layout.encode values generation = .ok bytes → layout.padding.Overwritten bytes framed →
          Bytes.Resized framed given →
            ∃ fault, layout.decodeChecked given generation = .error fault ∧
              layout.decode given generation = .error fault ∧ fault.IsPlain) ∧
    ∀ (layout : SnapshotLayout) (values : List Value) (slots : Slots) (bytes given : Bytes),
      (∀ field ∈ layout.fields, field.property.adapter = none) → layout.encode values slots = .ok bytes →
        Bytes.Resized bytes given →
          ∃ fault, layout.decode given = .error fault ∧ fault.IsPlain ∧
            ∀ (row : Row) (target : Slots), row.length = layout.fields.length →
              layout.decodeInto given row target = .error fault := by
  refine ⟨?_, ?_, ?_⟩
  · intro layout bounds span values bytes framed given hbare hspan hplain hencode hframed hresized
    rcases KeyLayout.exists_decode hbare hspan hplain hencode hframed with ⟨found, hdecode⟩
    exact KeyLayout.decode_of_resized hbare hspan hplain hdecode hresized
  · intro layout values generation bytes framed given hbare hplain hencode hframed hresized
    rcases DataLayout.exists_decode hplain hencode hframed with ⟨found, hdecode⟩
    rcases DataLayout.decodeChecked_of_resized hbare hplain hdecode hresized with ⟨fault, hchecked, hfault⟩
    exact ⟨fault, hchecked, by rw [DataLayout.decode, hchecked]; rfl, hfault⟩
  · intro layout values slots bytes given hplain hencode hresized
    rcases SnapshotLayout.exists_contents hplain hencode with ⟨found, hcontents⟩
    rcases SnapshotLayout.contents_of_resized hplain hcontents hresized with ⟨fault, hrefused, hfault⟩
    refine ⟨fault, ?_, hfault, ?_⟩
    · exact SnapshotLayout.decodeInto_of_error hrefused List.length_replicate _
    · intro row target hrow
      exact SnapshotLayout.decodeInto_of_error hrefused hrow target

/-- A key without its last byte of padding, data with a byte more, and a snapshot without its one cell. -/
theorem resized_forms_refused :
    (∃ fault, KeyLayout.tagAndLevel.decode [0, 0xFE, 0xFF, 0xFE, 0xF6, 0xFF, 0xFF, 0x80, 0x05] .all =
        .error fault ∧ fault.IsPlain) ∧
    (∃ fault,
      DataLayout.flagAndCount.decodeChecked [1, 1, 0, 0, 0, 0, 0, 0, 0, 7, 9] (some 1) = .error fault ∧
      DataLayout.flagAndCount.decode [1, 1, 0, 0, 0, 0, 0, 0, 0, 7, 9] (some 1) = .error fault ∧
      fault.IsPlain) ∧
    ∃ fault, SnapshotLayout.flagCountLabel.decode [3] = .error fault ∧ fault.IsPlain ∧
      SnapshotLayout.flagCountLabel.decodeInto [3] [.null, .null, .null] (Slots.empty 5) = .error fault := by
  have hkey : KeyLayout.tagAndLevel.encode [.of .bytes [0, 9], .of (.signed .w16) 5] .all =
      .ok [0, 0xFE, 0xFF, 0xFE, 0xF6, 0xFF, 0xFF, 0x80, 0x05, 0] := by decide
  have hdata : DataLayout.flagAndCount.encode [.of .bool true, .of (.signed .w64) 7] (some 1) =
      .ok [1, 1, 0, 0, 0, 0, 0, 0, 0, 7] := by decide
  have hsnapshot : SnapshotLayout.flagCountLabel.encode [.of .bool true, .null, .of .text "unread"]
      ((Slots.empty 2).set 0 .dirty) = .ok [3, 1] := by decide
  have hkeyPlain : ∀ field ∈ (Span.full 2).slice KeyLayout.tagAndLevel.fields,
      field.property.adapter = none := by
    simp [Span.slice, Span.full, KeyLayout.tagAndLevel, Field.plain]
  have hdataPlain : ∀ field ∈ DataLayout.flagAndCount.fields, field.property.adapter = none := by
    simp [DataLayout.flagAndCount, Field.plain]
  have hsnapshotPlain : ∀ field ∈ SnapshotLayout.flagCountLabel.fields, field.property.adapter = none := by
    simp [SnapshotLayout.flagCountLabel, Field.plain]
  have hcut : Bytes.Resized [0, 0xFE, 0xFF, 0xFE, 0xF6, 0xFF, 0xFF, 0x80, 0x05, 0]
      [0, 0xFE, 0xFF, 0xFE, 0xF6, 0xFF, 0xFF, 0x80, 0x05] := Bytes.Resized.cut rfl (List.cons_ne_nil 0 [])
  have hextended : Bytes.Resized [1, 1, 0, 0, 0, 0, 0, 0, 0, 7] [1, 1, 0, 0, 0, 0, 0, 0, 0, 7, 9] :=
    @Bytes.Resized.extended [1, 1, 0, 0, 0, 0, 0, 0, 0, 7] [9] (List.cons_ne_nil 9 [])
  have hwithout : Bytes.Resized [3, 1] [3] := Bytes.Resized.cut rfl (List.cons_ne_nil 1 [])
  rcases encoded_resized_refused with ⟨hkeys, hdatas, hsnapshots⟩
  rcases hsnapshots _ _ _ _ _ hsnapshotPlain hsnapshot hwithout with ⟨fault, hdecode, hfault, hinto⟩
  refine ⟨?_, ?_, fault, hdecode, hfault, hinto _ _ rfl⟩
  · exact hkeys _ _ (Span.full 2) _ _ _ _ rfl rfl hkeyPlain hkey (Padding.overwritten_refl _ _) hcut
  · exact hdatas _ _ _ _ _ _ rfl hdataPlain hdata (Padding.overwritten_refl _ _) hextended

end RecordBytes
