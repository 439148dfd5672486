import Mathlib
import RecordBytes.Proofs.Key.Prefix
import RecordBytes.Proofs.Layout.Padding
import RecordBytes.Proofs.Layout.Reading

/-!
# Reading keys back

A key, or the part of a key that covers a span, is read back whatever its padding holds: each stored value
goes through the adapter of its field, with NaNs made canonical and decimals replaced by equal ones.  Where
no adapter stands between, what is read back has the same key again.

Main results:

- `KeyLayout.decodeSpan_of_written`: what is read back from the part of a key.
- `KeyLayout.decode_encode_overwritten`: reading back, and writing again, over any span.
-/

namespace RecordBytes

open Outcome

/-! ## Bare keys -/

/-- A stored byte array is read back as it is. -/
theorem Field.Storable.restored_eq {field : Field} (hkind : field.kind = .bytes) {stored : Value}
    (h : field.Storable stored) : stored.restored = stored ∧ Value.Restores stored stored := by
  rcases field with ⟨property, kind, hstorage⟩
  obtain rfl : kind = .bytes := hkind
  cases h with
  | missing _ => exact ⟨rfl, Value.Restores.missing⟩
  | present content => exact ⟨rfl, Value.Restores.same content (by simp) (by simp)⟩

namespace KeyLayout

variable {layout : KeyLayout}

theorem resolve_of_bare {field : Field} (hbare : layout.bare? = some field) {bounds : Bounds} {span : Span}
    (hspan : layout.resolve bounds = .ok span) : Span.full 1 = span := by
  unfold resolve at hspan
  rw [(bare?_eq_some hbare).1] at hspan
  exact Except.ok.inj hspan

/-- Between overwritten padding a reader finds what was put there, unless it asks for more bytes. -/
theorem body_of_overwritten {padding : Padding} {needed : Nat} {content framed : Bytes}
    (hneeded : needed ≤ padding.size + content.length)
    (hframed : padding.Overwritten (padding.wrap content) framed) :
    body needed padding framed = .ok content := by
  have hlength := hframed.1
  rw [Padding.length_wrap] at hlength
  rw [body, if_neg (by omega), Padding.strip?_of_overwritten hframed]
  rfl

/-- A bare key is read back through the adapter of its field. -/
theorem decodeSpan_of_bare {field : Field} (hbare : layout.bare? = some field) {stored : Value}
    (hstorable : field.Storable stored) {framed : Bytes} {span : Span}
    (hframed : layout.padding.Overwritten
      (layout.padding.wrap (Bare.encode field.nullable stored)) framed) :
    layout.decodeSpan framed span = Cells.logical [field] [stored] := by
  rcases bare?_eq_some hbare with ⟨-, hkind, -⟩
  have hneeded : layout.bareLeastSize field ≤
      layout.padding.size + (Bare.encode field.nullable stored).length := by
    rw [bareLeastSize, Bare.length_encode, Bare.size, Padding.size]
    omega
  have hbody := body_of_overwritten hneeded hframed
  have hdecode : layout.decodeBare field framed = field.logical stored := by
    simp [decodeBare, hbody, Bare.decode_encode hkind hstorable]
  rw [decodeSpan, hbare]
  simp only [hdecode]
  rfl

/-! ## Runs of cells -/

/-- The cells of a span that lies inside the key, with the padding that belongs to it. -/
theorem run?_of_stop_le {span : Span} (hstop : span.stop ≤ layout.fields.length) :
    layout.run? span = some ⟨.sortable, span.slice layout.fields, layout.padding.within span⟩ := by
  have hfields := Span.of?_eq_some.mpr ⟨hstop, rfl⟩
  simp [run?, Run.ofSpan?, hfields]

/-- The part of a key that is a run of cells is read back through the adapters of its fields. -/
theorem decodeSpan_of_cells (hbare : layout.bare? = none) {span : Span} {stored : List Value}
    {run framed : Bytes} (hstop : span.stop ≤ layout.fields.length)
    (hlength : stored.length = (span.slice layout.fields).length)
    (hrun : Cells.encode .sortable (span.slice layout.fields) stored = .ok run)
    (hframed : (layout.padding.within span).Overwritten ((layout.padding.within span).wrap run) framed) :
    layout.decodeSpan framed span =
      Cells.logical (span.slice layout.fields) (stored.map Value.restored) := by
  have hneeded : Run.leastSize ⟨.sortable, span.slice layout.fields, layout.padding.within span⟩ ≤
      (layout.padding.within span).size + run.length :=
    Nat.add_le_add_left (Cells.leastSize_le hlength hrun) _
  have hbody := body_of_overwritten hneeded hframed
  have hread := Cells.read_encode hlength hrun 0 [] 0
  rw [List.append_nil, Form.restored_sortable] at hread
  rw [decodeSpan, hbare]
  simp only [run?_of_stop_le hstop, inBounds, ok_bind, hbody]
  cases hlogical : Cells.logical (span.slice layout.fields) (stored.map Value.restored) with
  | ok values =>
    rw [hlogical] at hread
    rcases hread.runOn_ok with ⟨mask, hvalues⟩
    rw [hvalues]
    rfl
  | error fault =>
    rw [hlogical] at hread
    rw [hread.runOn_error]
    rfl

/-! ## Keys -/

/-- The part of a key that covers a span is read back, whatever its padding holds, through the adapters of
the fields; what is read back stands for the stored values. -/
theorem decodeSpan_of_written {bounds : Bounds} {span : Span} (hspan : layout.resolve bounds = .ok span)
    {values stored : List Value} {bytes framed : Bytes}
    (hstored : Cells.stored (span.slice layout.fields) (span.slice values) = .ok stored)
    (hstop : span.stop ≤ layout.fields.length)
    (hlength : stored.length = (span.slice layout.fields).length)
    (hwritten : Written layout span stored bytes)
    (hframed : (layout.padding.within span).Overwritten bytes framed) :
    layout.decodeSpan framed span =
        Cells.logical (span.slice layout.fields) (stored.map Value.restored) ∧
      List.Forall₂ Value.Restores stored (stored.map Value.restored) ∧
      Written layout span (stored.map Value.restored) bytes := by
  cases hwritten with
  | @bare field hbare =>
    rcases resolve_of_bare hbare hspan with rfl
    rcases bare?_eq_some hbare with ⟨hfields, hkind, -⟩
    have hslice : (Span.full 1).slice layout.fields = [field] := by simp [Span.slice, Span.full, hfields]
    rw [hslice] at hstored hlength ⊢
    rcases Cells.storable_of_stored hstored hlength with ⟨value, rfl, hstorable⟩
    rcases hstorable.restored_eq hkind with ⟨hsame, hrestores⟩
    have hrestored : [value].map Value.restored = [value] := by rw [List.map_singleton, hsame]
    have hwithin : layout.padding.within (Span.full 1) = layout.padding := rfl
    rw [hwithin, List.flatMap_singleton] at hframed
    rw [hrestored]
    exact ⟨decodeSpan_of_bare hbare hstorable hframed, List.Forall₂.cons hrestores List.Forall₂.nil,
      Written.bare hbare⟩
  | @cells run hbare hrun =>
    exact ⟨decodeSpan_of_cells hbare hstop hlength hrun hframed, Cells.restores hlength hrun,
      Written.cells hbare (Cells.encode_restored hrun)⟩

/-- A key, or the part of a key that bounds name, is read back whatever its padding holds.  What was stored
comes back through the adapters of the fields, up to NaNs and equal decimals, and the first adapter that
refuses is the only cause of failure.  Fields without adapters give back what was stored, and writing it
again gives the same bytes. -/
theorem decode_encode_overwritten {values : List Value} {bounds : Bounds} {span : Span} {bytes framed : Bytes}
    (hspan : layout.resolve bounds = .ok span) (hencode : layout.encode values bounds = .ok bytes)
    (hframed : (layout.padding.within span).Overwritten bytes framed) :
    ∃ stored restored,
      Cells.stored (span.slice layout.fields) (span.slice values) = .ok stored ∧
      stored.length = span.size ∧ List.Forall₂ Value.Restores stored restored ∧
      layout.decode framed bounds = Cells.logical (span.slice layout.fields) restored ∧
      ((∀ field ∈ span.slice layout.fields, field.property.adapter = none) →
        layout.decode framed bounds = .ok restored ∧
        ∀ again, span.of? again = some restored → layout.encode again bounds = .ok bytes) := by
  rw [encode_of_resolve hspan] at hencode
  rcases encodeSpan_eq_ok.mp hencode with ⟨hvalues, hstop, stored, hstored, hwritten⟩
  have hsize := Cells.length_stored_slice hstop hvalues hstored
  have hlength : stored.length = (span.slice layout.fields).length :=
    hsize.trans (span.length_slice hstop).symm
  rcases decodeSpan_of_written hspan hstored hstop hlength hwritten hframed with
    ⟨hdecodeSpan, hrestores, hagain⟩
  have hdecode : layout.decode framed bounds =
      Cells.logical (span.slice layout.fields) (stored.map Value.restored) := by
    rw [decode, hspan]
    exact hdecodeSpan
  refine ⟨stored, stored.map Value.restored, hstored, hsize, hrestores, hdecode, ?_⟩
  intro hplain
  constructor
  · rw [hdecode, Cells.logical_of_plain hplain (by simp [hlength])]
  · intro again hslice
    rcases Span.of?_eq_some.mp hslice with ⟨hagainStop, hagainSlice⟩
    have hagainStored := Cells.stored_restored hplain hstored
    have hpart : layout.encodeSpan again span = .ok bytes := by
      rw [encodeSpan_eq_ok, hagainSlice]
      exact ⟨hagainStop, hstop, _, hagainStored, hagain⟩
    exact (encode_of_resolve hspan again).trans hpart

/-- A key with a tag and a level is read back from between overwritten padding, and so is one with a mark, which the
adapter makes of its letter. -/
theorem decode_tagAndLevel :
    (∃ stored restored,
      Cells.stored tagAndLevel.fields [.of .bytes [0, 9], .of (.signed .w16) 5] = .ok stored ∧
      stored.length = 2 ∧ List.Forall₂ Value.Restores stored restored ∧
      tagAndLevel.decode [0xAA, 0xFE, 0xFF, 0xFE, 0xF6, 0xFF, 0xFF, 0x80, 0x05, 0xBB] .all =
        .ok restored ∧
      ∀ again, (Span.full 2).of? again = some restored →
        tagAndLevel.encode again .all = .ok [0, 0xFE, 0xFF, 0xFE, 0xF6, 0xFF, 0xFF, 0x80, 0x05, 0]) ∧
    markAndLevel.decode [0xFE, 0xFF, 0xFF, 0xFF, 0x86, 0x80, 0x05, 9] .all =
      .ok [.of .bool true, .of (.signed .w16) 5] := by
  constructor
  · have hspan : tagAndLevel.resolve .all = .ok (Span.full 2) := rfl
    have hencode : tagAndLevel.encode [.of .bytes [0, 9], .of (.signed .w16) 5] .all =
        .ok [0, 0xFE, 0xFF, 0xFE, 0xF6, 0xFF, 0xFF, 0x80, 0x05, 0] := by decide
    have hframed : (tagAndLevel.padding.within (Span.full 2)).Overwritten
        [0, 0xFE, 0xFF, 0xFE, 0xF6, 0xFF, 0xFF, 0x80, 0x05, 0]
        [0xAA, 0xFE, 0xFF, 0xFE, 0xF6, 0xFF, 0xFF, 0x80, 0x05, 0xBB] := by
      refine ⟨rfl, ?_⟩
      intro index hbefore hafter
      have hlow : 1 ≤ index := hbefore
      have hhigh : index + 1 < 10 := hafter
      have hlast : index ≤ 8 := by omega
      interval_cases index <;> rfl
    have hplain : ∀ field ∈ (Span.full 2).slice tagAndLevel.fields, field.property.adapter = none := by
      simp [Span.slice, Span.full, tagAndLevel, Field.plain]
    rcases decode_encode_overwritten hspan hencode hframed with
      ⟨stored, restored, hstored, hlength, hrestores, -, hall⟩
    rcases hall hplain with ⟨hdecode, hagain⟩
    exact ⟨stored, restored, hstored, hlength, hrestores, hdecode, hagain⟩
  · have hspan : markAndLevel.resolve .all = .ok (Span.full 2) := rfl
    have hencode : markAndLevel.encode [.of .bool true, .of (.signed .w16) 5] .all =
        .ok [0xFE, 0xFF, 0xFF, 0xFF, 0x86, 0x80, 0x05, 0] := by decide
    have hframed : (markAndLevel.padding.within (Span.full 2)).Overwritten
        [0xFE, 0xFF, 0xFF, 0xFF, 0x86, 0x80, 0x05, 0] [0xFE, 0xFF, 0xFF, 0xFF, 0x86, 0x80, 0x05, 9] :=
      @Padding.overwritten_of_append (markAndLevel.padding.within (Span.full 2)) [] [9] rfl rfl
        [0xFE, 0xFF, 0xFF, 0xFF, 0x86, 0x80, 0x05]
    rcases decode_encode_overwritten hspan hencode hframed with ⟨_, _, hstored, -, hrestores, hdecode, -⟩
    cases hstored
    -- A letter and a whole number come back as they were stored.
    rcases hrestores with _ | ⟨⟨⟩, _ | ⟨⟨⟩, ⟨⟩⟩⟩
    exact hdecode

end KeyLayout
end RecordBytes
