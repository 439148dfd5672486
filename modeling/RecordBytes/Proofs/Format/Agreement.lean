import Mathlib
import RecordBytes.Proofs.Format.Fitting
import RecordBytes.Proofs.Format.Rebuilt
import RecordBytes.Proofs.Key.Prefix
import RecordBytes.Proofs.Slots.Reading

/-!
# What an encoder sees of a row

A key, data and a snapshot depend on nothing but what they carry.  Two rows that agree there have the same form,
or are refused in the same words, whatever stands elsewhere in them: a value of another type, a missing value
where none is allowed, or one that the adapter would refuse.

Main results:

- `KeyLayout.encode_congr`: a part of a key depends on the values in its span.
- `SnapshotLayout.encode_congr`: a snapshot depends on the states of its properties and the assigned values.
- `RecordFormat.encoded_congr`: all three forms of a row, for any format that can be built.
-/

namespace RecordBytes

open Outcome

/-! ## Values at ordinals -/

namespace Row

variable {row other : Row} {ordinals : List Nat} {values others : List Value}

theorem select?_of_forall₂ (h : List.Forall₂ (fun ordinal value => row[ordinal]? = some value) ordinals values) :
    select? row ordinals = some values := by
  induction h with
  | nil => rfl
  | cons hvalue _ ih => exact select?_cons.mpr ⟨_, _, hvalue, ih, rfl⟩

/-- Rows that agree at some ordinals have the same values there. -/
theorem select?_congr (h : ∀ ordinal ∈ ordinals, row[ordinal]? = other[ordinal]?) :
    select? row ordinals = select? other ordinals := by
  induction ordinals with
  | nil => rfl
  | cons ordinal ordinals ih =>
    unfold select? at ih ⊢
    rw [List.mapM_cons, List.mapM_cons, h ordinal List.mem_cons_self,
      ih fun next hnext => h next (List.mem_cons_of_mem _ hnext)]

/-- The values in a span are those at the ordinals in the span. -/
theorem select?_slice (h : select? row ordinals = some values) (span : Span) :
    select? row (span.slice ordinals) = some (span.slice values) :=
  select?_of_forall₂ (span.forall₂_slice (forall₂_select? h))

/-- Rows that agree at the ordinals in a span have the same values in the span. -/
theorem slice_congr (hvalues : select? row ordinals = some values) (hothers : select? other ordinals = some others)
    {span : Span} (h : ∀ ordinal ∈ span.slice ordinals, row[ordinal]? = other[ordinal]?) :
    span.slice values = span.slice others := by
  apply Option.some.inj
  calc some (span.slice values)
      = select? row (span.slice ordinals) := (select?_slice hvalues span).symm
    _ = select? other (span.slice ordinals) := select?_congr h
    _ = some (span.slice others) := select?_slice hothers span

end Row

/-! ## Keys -/

/-- A part of a key depends on the values in its span alone, whether it is written or refused. -/
theorem KeyLayout.encode_congr {layout : KeyLayout} {left right : List Value} {bounds : Bounds}
    (hlength : left.length = right.length)
    (hslice : ∀ span, layout.resolve bounds = .ok span → span.slice left = span.slice right) :
    layout.encode left bounds = layout.encode right bounds := by
  unfold encode
  cases hspan : layout.resolve bounds with
  | error refusal => rfl
  | ok span =>
    rw [lift_refusal_ok, ok_bind, ok_bind]
    exact encodeSpan_congr hlength (hslice span hspan)

/-! ## Snapshots -/

/-- The written states depend on the states that are written. -/
theorem Slots.toBytes_congr {slots others : Slots} {count : Nat}
    (h : ∀ ordinal < count, slots.get ordinal = others.get ordinal) :
    slots.toBytes count = others.toBytes count := by
  have hbits : ∀ ordinal, slots.slotBits count ordinal = others.slotBits count ordinal := by
    intro ordinal
    unfold slotBits
    split
    · next hordinal => rw [h ordinal hordinal]
    · rfl
  unfold toBytes byteAt
  simp only [hbits]

namespace SnapshotLayout

variable {slots others : Slots}

/-- What is stored from an ordinal on depends on the states and the assigned values from there on. -/
theorem storedFrom_congr {ordinal : Nat} {fields : List Field} {left right : List Value}
    (hlength : left.length = right.length)
    (hstates : ∀ index < left.length, slots.get (ordinal + index) = others.get (ordinal + index))
    (hassigned : ∀ index, slots.isAssigned (ordinal + index) = true → left[index]? = right[index]?) :
    storedFrom slots ordinal fields left = storedFrom others ordinal fields right := by
  induction fields generalizing ordinal left right with
  | nil => rfl
  | cons field fields ih =>
    cases left with
    | nil =>
      rcases List.length_eq_zero_iff.mp hlength.symm with rfl
      rfl
    | cons value left =>
      rcases List.exists_cons_of_length_eq_add_one hlength.symm with ⟨given, right, rfl⟩
      have hstate : slots.isAssigned ordinal = others.isAssigned ordinal := by
        unfold Slots.isAssigned
        rw [← Nat.add_zero ordinal, hstates 0 (by simp)]
      have hothers : storedFrom slots (ordinal + 1) fields left = storedFrom others (ordinal + 1) fields right := by
        refine ih (Nat.succ.inj hlength) ?_ ?_
        · intro index hindex
          rw [Nat.add_assoc, Nat.add_comm 1]
          exact hstates (index + 1) (by simpa using hindex)
        · intro index hindex
          rw [Nat.add_assoc, Nat.add_comm 1] at hindex
          simpa using hassigned (index + 1) hindex
      rw [storedFrom, storedFrom, ← hstate, hothers]
      cases hfirst : slots.isAssigned ordinal with
      | false => rfl
      | true =>
        obtain rfl : value = given := by simpa using hassigned 0 (by rwa [Nat.add_zero])
        rfl

/-- A snapshot depends on the states of its properties and on the values of those that are assigned. -/
theorem encode_congr {layout : SnapshotLayout} {left right : List Value} (hlength : left.length = right.length)
    (hstates : ∀ ordinal < layout.fields.length, slots.get ordinal = others.get ordinal)
    (hassigned : ∀ ordinal < layout.fields.length, slots.isAssigned ordinal = true →
      left[ordinal]? = right[ordinal]?) :
    layout.encode left slots = layout.encode right others := by
  unfold encode
  rw [← hlength]
  by_cases hcount : left.length = layout.fields.length
  · have hstored : layout.stored left slots = layout.stored right others := by
      refine storedFrom_congr hlength ?_ ?_
      · simpa [hcount] using hstates
      · intro index hindex
        rw [Nat.zero_add] at hindex
        by_cases hin : index < layout.fields.length
        · exact hassigned index hin hindex
        · rw [List.getElem?_eq_none (by omega), List.getElem?_eq_none (by omega)]
    rw [hstored, Slots.toBytes_congr hstates]
  · rw [if_pos hcount, if_pos hcount]
    rfl

end SnapshotLayout

/-! ## Rows -/

namespace RecordFormat

variable {format : RecordFormat} {row other : Row}

/-- The key of a row, or the part that bounds name, depends on the values at the ordinals that they cover. -/
theorem encodeKey_congr (hkey : ∀ ordinal ∈ format.schema.key, ordinal < format.schema.size)
    (hlength : format.key.fields.length = format.schema.key.length) (hrow : row.length = format.schema.size)
    (hother : other.length = format.schema.size) {bounds : Bounds}
    (h : ∀ span, format.schema.KeySpan bounds span →
      ∀ ordinal ∈ span.slice format.schema.key, row[ordinal]? = other[ordinal]?) :
    format.encodeKey row bounds = format.encodeKey other bounds := by
  rcases Row.select?_isSome_iff.mpr (hrow ▸ hkey) with ⟨values, hvalues⟩
  rcases Row.select?_isSome_iff.mpr (hother ▸ hkey) with ⟨others, hothers⟩
  have hcount : values.length = others.length :=
    (Row.length_select? hvalues).trans (Row.length_select? hothers).symm
  have hsame : format.key.encode values bounds = format.key.encode others bounds := by
    apply KeyLayout.encode_congr hcount
    intro span hspan
    exact Row.slice_congr hvalues hothers (h span ((KeyLayout.resolve_eq_ok_iff hlength).mp hspan))
  simp [encodeKey, checkRow, hrow, hother, hvalues, hothers, inBounds, hsame]

/-- The data of a row depends on the values outside the key. -/
theorem encodeData_congr (hrow : row.length = format.schema.size) (hother : other.length = format.schema.size)
    (h : ∀ ordinal ∈ format.schema.data, row[ordinal]? = other[ordinal]?) (generation : Option Nat) :
    format.encodeData row generation = format.encodeData other generation := by
  unfold encodeData checkRow
  rw [Row.select?_congr h, hrow, hother]

/-- The snapshot of a row depends on the states of its properties and on the values of those that are
assigned. -/
theorem encodeSnapshot_congr (hfields : format.snapshot.fields.length = format.schema.size)
    (hrow : row.length = format.schema.size) (hother : other.length = format.schema.size) {slots others : Slots}
    (hstates : ∀ ordinal < format.schema.size, slots.get ordinal = others.get ordinal)
    (h : ∀ ordinal < format.schema.size, slots.isAssigned ordinal = true → row[ordinal]? = other[ordinal]?) :
    format.encodeSnapshot row slots = format.encodeSnapshot other others := by
  rw [← hfields] at hstates h
  unfold encodeSnapshot checkRow
  rw [SnapshotLayout.encode_congr (hrow.trans hother.symm) hstates h, hrow, hother]

/-- For every format that can be built, two rows of the right length have the same key over any bounds, or are
refused for it alike, when they agree at the key ordinals that the bounds cover; the same data behind any
generation when they agree outside the key; and the same snapshot when they agree at the assigned ordinals, for
any slots that give the same states to the properties. -/
theorem encoded_congr {typeName : String} {declarations : List Declaration} {schema : Schema}
    {padding : RecordPadding} (hschema : Schema.build declarations = .ok schema)
    (hbuild : build typeName schema padding = .ok format) (hrow : row.length = schema.size)
    (hother : other.length = schema.size) :
    (∀ bounds : Bounds,
      (∀ span, schema.KeySpan bounds span →
        ∀ ordinal ∈ span.slice schema.key, row[ordinal]? = other[ordinal]?) →
        format.encodeKey row bounds = format.encodeKey other bounds) ∧
    (∀ generation : Option Nat,
      (∀ ordinal < schema.size, ordinal ∉ schema.key → row[ordinal]? = other[ordinal]?) →
        format.encodeData row generation = format.encodeData other generation) ∧
    ∀ slots others : Slots,
      (∀ ordinal < schema.size, slots.get ordinal = others.get ordinal) →
      (∀ ordinal < schema.size, slots.isAssigned ordinal = true → row[ordinal]? = other[ordinal]?) →
        format.encodeSnapshot row slots = format.encodeSnapshot other others := by
  have hkey := (Schema.key_of_build hschema).2
  have hmem := (Schema.mem_data_of_build hschema).2
  have hfields := fieldsOf_of_schema hschema hbuild
  obtain rfl : format.schema = schema := schema_of_build hbuild
  refine ⟨?_, ?_, ?_⟩
  · intro bounds h
    exact encodeKey_congr hkey hfields.key.length_eq.symm hrow hother h
  · intro generation h
    refine encodeData_congr hrow hother ?_ generation
    intro ordinal hordinal
    exact h ordinal ((hmem ordinal).mp hordinal).1 ((hmem ordinal).mp hordinal).2
  · intro slots others hstates h
    exact encodeSnapshot_congr hfields.length_eq hrow hother hstates h

/-- Two rows without a flag that differ in their reading alone, which is a text in one of them, have the same part
of the key behind the reading, are refused for their data alike, and have the same snapshot without the reading,
with slots of any length; only one of them has a whole key. -/
theorem encoded_congr_interleaved :
    (interleavedRecord.encodeKey [.null, .of (.signed .w16) 7, .null, .of (.float .double) 0#64]
        ⟨.included 1, .unbounded⟩ =
      interleavedRecord.encodeKey [.null, .of (.signed .w16) 7, .null, .of .text "none"]
        ⟨.included 1, .unbounded⟩ ∧
    interleavedRecord.encodeData [.null, .of (.signed .w16) 7, .null, .of (.float .double) 0#64] (some 5) =
      interleavedRecord.encodeData [.null, .of (.signed .w16) 7, .null, .of .text "none"] (some 5) ∧
    interleavedRecord.encodeSnapshot [.null, .of (.signed .w16) 7, .null, .of (.float .double) 0#64]
        ((Slots.empty 2).set 1 .clean) =
      interleavedRecord.encodeSnapshot [.null, .of (.signed .w16) 7, .null, .of .text "none"]
        ((Slots.empty 40).set 1 .clean)) ∧
    interleavedRecord.encodeKey [.null, .of (.signed .w16) 7, .null, .of (.float .double) 0#64] .all ≠
      interleavedRecord.encodeKey [.null, .of (.signed .w16) 7, .null, .of .text "none"] .all := by
  have hschema : Schema.build interleaved = .ok interleavedRecord.schema := rfl
  have hbuild : build "Interleaved" interleavedRecord.schema interleavedRecord.padding = .ok interleavedRecord :=
    rfl
  have hresolve : Span.resolve ⟨.included 1, .unbounded⟩ 2 = .ok ⟨1, 2, 2, by decide, by decide⟩ := rfl
  -- The rows agree below ordinal 3, where the reading is.
  have hagree : ∀ ordinal < 4, ordinal ≠ 3 →
      [Value.null, .of (.signed .w16) 7, .null, .of (.float .double) 0#64][ordinal]? =
        [Value.null, .of (.signed .w16) 7, .null, .of .text "none"][ordinal]? := by
    intro ordinal hordinal hne
    interval_cases ordinal <;> first | rfl | exact absurd rfl hne
  have hrow : [Value.null, .of (.signed .w16) 7, .null, .of (.float .double) 0#64].length =
      interleavedRecord.schema.size := rfl
  have hother : [Value.null, .of (.signed .w16) 7, .null, .of .text "none"].length =
      interleavedRecord.schema.size := rfl
  rcases encoded_congr hschema hbuild hrow hother with ⟨hkeys, hdatas, hsnapshots⟩
  refine ⟨⟨?_, ?_, ?_⟩, ?_⟩
  · apply hkeys
    intro span hspan ordinal hordinal
    rcases Except.ok.inj (hresolve.symm.trans hspan) with rfl
    rcases List.mem_singleton.mp hordinal with rfl
    exact hagree 1 (by decide) (by decide)
  · apply hdatas
    intro ordinal hordinal hdata
    exact hagree ordinal hordinal fun hthree => hdata (hthree ▸ by decide)
  · apply hsnapshots
    · decide
    · intro ordinal hordinal hassigned
      refine hagree ordinal hordinal fun hthree => ?_
      rw [hthree] at hassigned
      exact absurd hassigned (by decide)
  · decide

end RecordFormat
end RecordBytes
