import Mathlib
import RecordBytes.Proofs.Format.Accepted
import RecordBytes.Proofs.Sortable.Canonical

/-!
# Keys that are spelled in one way

A key of fields whose kinds have one sortable form, and without adapters, is what is written for the values that
are read of it, but for its padding and for NaNs.  This turns the round trip around: it starts from any bytes
that a reader accepts, not from what a writer makes.

Main results:

- `Cells.exists_run_of_read`: the bytes of a run of cells are those that are written for its values.
- `Bare.encode_of_decode`: so is the body of a bare byte array.
- `KeyLayout.encode_of_accepted`: the key that is written for what was read of a key, and why no other key with
  the same padding is read as the same values.
-/

namespace RecordBytes

open Outcome

/-! ## Cells -/

/-- A field whose values have one sortable cell, NaNs apart: nothing is converted, and the kind has one form. -/
structure Field.IsCanonical (field : Field) : Prop where
  plain : field.property.adapter = none
  kind : field.kind.isCanonical = true

/-- The bytes that a field is read from are the cell that is written for its value, unless it is a NaN. -/
theorem Field.exists_cell_of_read {field : Field} (hfield : field.IsCanonical) {cursor after : Cursor}
    {value : Value} (hread : field.read .sortable cursor = .ok value after) :
    ∃ cell, cursor.unread = cell ++ after.unread ∧
      (value.isNaN = false → field.encode .sortable value = .ok cell) := by
  rcases Reading.bind_eq_ok.mp hread with ⟨stored, middle, hscan, hlogical⟩
  rw [Reading.ofExcept_eq_ok, logical_of_plain hfield.plain] at hlogical
  rcases hlogical with ⟨⟨⟩, rfl⟩
  have hcell : Sortable.read field.kind field.nullable { cursor with mask := field.order.mask } =
      .ok value middle := scanning_eq_ok.mp hscan
  rcases Sortable.spells_read hfield.kind field.nullable hcell with ⟨cell, hunread, -, hform⟩
  refine ⟨cell, hunread, ?_⟩
  intro hnumber
  exact Sortable.encode_eq_ok.mpr ⟨_, hform hnumber, Sortable.apply_map_mask field.order cell⟩

/-- The bytes that a run of cells is read from are the run that is written for its values, if none is a NaN. -/
theorem Cells.exists_run_of_read {fields : List Field} (hfields : ∀ field ∈ fields, field.IsCanonical) :
    ∀ {cursor after : Cursor} {values : List Value}, read .sortable fields cursor = .ok values after →
      ∃ run, cursor.unread = run ++ after.unread ∧
        ((∀ value ∈ values, value.isNaN = false) → encode .sortable fields values = .ok run) := by
  induction fields with
  | nil =>
    rintro cursor after _ ⟨⟩
    exact ⟨[], rfl, fun _ => rfl⟩
  | cons field fields ih =>
    intro cursor after values hread
    rcases Reading.bind_eq_ok.mp hread with ⟨first, middle, hfirst, hothers⟩
    rcases Reading.bind_eq_ok.mp hothers with ⟨others, _, hrest, hsame⟩
    rcases Reading.pure_eq_ok.mp hsame with ⟨rfl, rfl⟩
    rcases Field.exists_cell_of_read (hfields field List.mem_cons_self) hfirst with ⟨cell, hcell, hencode⟩
    rcases ih (fun next hnext => hfields next (List.mem_cons_of_mem _ hnext)) hrest with ⟨run, hrun, hencodeRest⟩
    refine ⟨cell ++ run, ?_, ?_⟩
    · rw [hcell, hrun, List.append_assoc]
    · intro hnumbers
      have hfirstNumber := hnumbers first List.mem_cons_self
      have hothersNumbers : ∀ value ∈ others, value.isNaN = false := by
        intro value hvalue
        exact hnumbers value (List.mem_cons_of_mem _ hvalue)
      exact encode_cons.mpr ⟨cell, run, hencode hfirstNumber, hencodeRest hothersNumbers, rfl⟩

/-- The body that a bare byte array is read from is the one that is written for it. -/
theorem Bare.encode_of_decode {nullable : Bool} {damage : Damage} {body : Bytes} {stored : Value}
    (h : decode nullable damage body = .ok stored) : encode nullable stored = body := by
  unfold decode at h
  cases nullable with
  | false =>
    cases h
    rfl
  | true =>
    rw [if_pos rfl] at h
    cases body with
    | nil => cases h
    | cons first rest =>
      dsimp only at h
      split at h
      · next hmissing =>
        cases h
        rw [hmissing.1, hmissing.2]
        rfl
      · split at h
        · next hpresent =>
          cases h
          rw [hpresent]
          rfl
        · cases h

/-! ## Padding -/

/-- What stands in the places of the padding, in front and behind. -/
def Padding.around (padding : Padding) (bytes : Bytes) : Bytes × Bytes :=
  (bytes.take padding.before, bytes.drop (bytes.length - padding.after))

/-- Bytes are the body between what stands in the places of the padding. -/
theorem Padding.around_append {padding : Padding} {bytes body : Bytes} (h : padding.strip? bytes = some body) :
    (padding.around bytes).1 ++ body ++ (padding.around bytes).2 = bytes := by
  rcases strip?_eq_some.mp h with ⟨front, back, hfront, hback, rfl⟩
  have hlength : (front ++ body ++ back).length - padding.after = (front ++ body).length := by
    rw [List.length_append, hback, Nat.add_sub_cancel]
  rw [around, hlength, List.drop_left, List.append_assoc front, ← hfront, List.take_left, ← List.append_assoc]

/-! ## Keys -/

namespace KeyLayout

variable {layout : KeyLayout}

/-- One key, or part of a key, is written for stored values. -/
theorem Written.unique {span : Span} {stored : List Value} {left right : Bytes}
    (hleft : Written layout span stored left) (hright : Written layout span stored right) : left = right := by
  cases hleft with
  | bare hbare =>
    cases hright with
    | bare hbare' =>
      rcases Option.some.inj (hbare.symm.trans hbare') with rfl
      rfl
    | cells hbare' _ => simp [hbare] at hbare'
  | cells hbare hrun =>
    rcases hright.run_of_not_bare hbare with ⟨run, hrun', rfl⟩
    rcases Except.ok.inj (hrun.symm.trans hrun') with rfl
    rfl

/-- What stands between the padding of a key, or of the part of a key that covers a span, is written for the
values that are read of it, if none is a NaN. -/
theorem exists_body_of_decodeSpan {bounds : Bounds} {span : Span} (hspan : layout.resolve bounds = .ok span)
    (hfields : ∀ field ∈ span.slice layout.fields, field.IsCanonical) {bytes : Bytes} {values : List Value}
    (hdecode : layout.decodeSpan bytes span = .ok values) (hnumbers : ∀ value ∈ values, value.isNaN = false) :
    ∃ body, (layout.padding.within span).strip? bytes = some body ∧
      Written layout span values ((layout.padding.within span).wrap body) := by
  cases hbare : layout.bare? with
  | some field =>
    rcases resolve_of_bare hbare hspan with rfl
    have hwithin : layout.padding.within (Span.full 1) = layout.padding := rfl
    have hmem : field ∈ (Span.full 1).slice layout.fields := by
      simp [Span.slice, Span.full, (bare?_eq_some hbare).1]
    have hplain := (hfields field hmem).plain
    rw [decodeSpan, hbare] at hdecode
    simp only [decodeBare, bind_eq_ok, pure_eq_ok, lift_damage_eq_ok, Field.logical_of_plain hplain,
      body_eq_ok] at hdecode
    rcases hdecode with ⟨value, ⟨body, ⟨-, hstrip⟩, stored, hstored, ⟨⟩⟩, rfl⟩
    have hwritten := @Written.bare layout (Span.full 1) [value] field hbare
    rw [List.flatMap_singleton, Bare.encode_of_decode hstored] at hwritten
    exact ⟨body, hstrip, hwritten⟩
  | none =>
    rcases (decodeSpan_eq_ok hbare (stop_le_of_resolve hspan)).mp hdecode with
      ⟨-, body, after, hstrip, hread, hend⟩
    rcases Cells.exists_run_of_read hfields hread with ⟨run, hunread, hrun⟩
    obtain rfl : body = run := by rwa [hend, List.append_nil] at hunread
    exact ⟨body, hstrip, Written.cells hbare (hrun hnumbers)⟩

/-- A key, or the part of a key that bounds name, is spelled in one way.  Whatever bytes are read as values
without a NaN, the same values are written as these bytes with zeros as padding; so no other bytes with the same
padding are read as the same values. -/
theorem encode_of_accepted {bounds : Bounds} {span : Span} (hspan : layout.resolve bounds = .ok span)
    (hfields : ∀ field ∈ span.slice layout.fields, field.IsCanonical) {bytes : Bytes} {values : List Value}
    (hdecode : layout.decode bytes bounds = .ok values) (hnumbers : ∀ value ∈ values, value.isNaN = false) :
    values.length = span.size ∧
      (∃ body, (layout.padding.within span).strip? bytes = some body ∧
        ∀ given, span.of? given = some values →
          layout.encode given bounds = .ok ((layout.padding.within span).wrap body)) ∧
      ∀ other, layout.decode other bounds = .ok values →
        (layout.padding.within span).around other = (layout.padding.within span).around bytes →
          other = bytes := by
  rw [decode_of_resolve hspan] at hdecode
  have hplain : ∀ field ∈ span.slice layout.fields, field.property.adapter = none := by
    intro field hfield
    exact (hfields field hfield).plain
  rcases written_of_decodeSpan hspan hplain hdecode with ⟨hstored, hlength, -⟩
  rcases exists_body_of_decodeSpan hspan hfields hdecode hnumbers with ⟨body, hstrip, hwritten⟩
  refine ⟨hlength.trans (span.length_slice (stop_le_of_resolve hspan)), ⟨body, hstrip, ?_⟩, ?_⟩
  · intro given hgiven
    exact encode_of_written hspan hstored hwritten hgiven
  · intro other hother haround
    rw [decode_of_resolve hspan] at hother
    rcases exists_body_of_decodeSpan hspan hfields hother hnumbers with ⟨body', hstrip', hwritten'⟩
    -- Both bodies are what is written for the values.
    have hbody : body' = body := Padding.wrap_inj.mp (hwritten'.unique hwritten)
    rw [← Padding.around_append hstrip', ← Padding.around_append hstrip, hbody, haround]

/-- A key of a tag that may be missing and sorts downward, a weight and a flag, with a byte reserved on either
side. -/
def tagWeightFlag : KeyLayout :=
  ⟨[Field.plain "tag" .bytes true .descending, Field.plain "weight" (.float .single) false .unspecified,
    Field.plain "flag" .bool false .ascending], ⟨1, 1⟩⟩

/-- The part of a key that holds a tag with a zero in it and a negative zero is written again but for its padding,
and no other bytes behind the same padding are read as these values. -/
theorem encode_of_accepted_tagWeightFlag :
    tagWeightFlag.decode [0xAA, 0xFE, 0xFF, 0xFE, 0xF6, 0xFF, 0xFF, 0x7F, 0xFF, 0xFF, 0xFF] (.upTo 2) =
        .ok [.of .bytes [0, 9], .of (.float .single) 0x80000000] ∧
      tagWeightFlag.encode [.of .bytes [0, 9], .of (.float .single) 0x80000000] (.upTo 2) =
        .ok [0, 0xFE, 0xFF, 0xFE, 0xF6, 0xFF, 0xFF, 0x7F, 0xFF, 0xFF, 0xFF] ∧
      ∀ other, tagWeightFlag.decode other (.upTo 2) =
          .ok [.of .bytes [0, 9], .of (.float .single) 0x80000000] →
        other.take 1 = [0xAA] →
          other = [0xAA, 0xFE, 0xFF, 0xFE, 0xF6, 0xFF, 0xFF, 0x7F, 0xFF, 0xFF, 0xFF] := by
  have hspan : tagWeightFlag.resolve (.upTo 2) = .ok (Span.head 2 3 (by decide)) := rfl
  have hfields : ∀ field ∈ (Span.head 2 3 (by decide)).slice tagWeightFlag.fields, field.IsCanonical := by
    intro field hfield
    simp only [Span.slice_head, tagWeightFlag, List.take_succ_cons, List.take_zero, List.mem_cons,
      List.not_mem_nil, or_false] at hfield
    rcases hfield with rfl | rfl <;> exact ⟨rfl, rfl⟩
  have hdecode : tagWeightFlag.decode
      [0xAA, 0xFE, 0xFF, 0xFE, 0xF6, 0xFF, 0xFF, 0x7F, 0xFF, 0xFF, 0xFF] (.upTo 2) =
        .ok [.of .bytes [0, 9], .of (.float .single) 0x80000000] := by decide
  have hnumbers : ∀ value ∈ [Value.of .bytes [0, 9], Value.of (.float .single) 0x80000000],
      value.isNaN = false := by decide
  rcases encode_of_accepted hspan hfields hdecode hnumbers with ⟨-, ⟨body, hstrip, hencode⟩, hunique⟩
  have hbody : (tagWeightFlag.padding.within (Span.head 2 3 (by decide))).strip?
      [0xAA, 0xFE, 0xFF, 0xFE, 0xF6, 0xFF, 0xFF, 0x7F, 0xFF, 0xFF, 0xFF] =
        some [0xFE, 0xFF, 0xFE, 0xF6, 0xFF, 0xFF, 0x7F, 0xFF, 0xFF, 0xFF] := by decide
  rcases Option.some.inj (hbody.symm.trans hstrip) with rfl
  refine ⟨hdecode, hencode _ rfl, ?_⟩
  intro other hother hfront
  refine hunique other hother (Prod.ext hfront ?_)
  -- Nothing is reserved behind a part that does not reach the end.
  have hback : ∀ bytes : Bytes, bytes.drop (bytes.length - 0) = [] := by simp
  exact (hback other).trans (hback _).symm

end KeyLayout
end RecordBytes
