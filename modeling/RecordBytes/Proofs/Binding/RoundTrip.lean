import Mathlib
import RecordBytes.Proofs.Binding.Lawful
import RecordBytes.Proofs.Snapshot.RoundTrip

/-!
# Objects that are written and read back

An object goes through its readers into a key and data, or into a snapshot, and comes back through the writers of
another object.  Over a lawful binding without adapters, that object then looks like the first one: the key and the
data bring all values back, in either order, up to NaNs and equal decimals in the key, and a snapshot the states and,
where the states are kept apart from the properties, the assigned values.

Main definitions:

- `Property.afterSnapshot`: what becomes of a value in a snapshot.
- `Binding.ReadBack`: the values that come back of a key and data.

Main results:

- `RecordFormat.exists_contents`: what the snapshot of a row holds.
- `Binding.exists_decodeKey`, `Binding.exists_decodeData`: values that can be set are written.
- `Binding.exists_readBack`: the trip through a key and data.
- `Binding.exists_snapshot_readBack`: the trip through a snapshot.
- `Binding.objects_read_back`: both trips, for any binding that was built.
- `Binding.not_all_snapshots_read_back`: a snapshot of values that hang on the states.
-/

namespace RecordBytes

open Outcome

/-- What a row holds at some ordinals is what it holds at each of them. -/
theorem Row.Holds.of_mem_zip {row : Row} {ordinals : List Nat} {values : List Value}
    (h : row.Holds ordinals values) {ordinal : Nat} {value : Value} (hmem : (ordinal, value) ∈ ordinals.zip values) :
    row[ordinal]? = some value := by
  rcases List.mem_iff_getElem?.mp hmem with ⟨index, hindex⟩
  rcases List.getElem?_zip_eq_some.mp hindex with ⟨hordinal, hvalue⟩
  exact h index ordinal value hordinal hvalue

/-! ## Snapshots of rows -/

/-- What becomes of a value in a snapshot: an assigned one stays, any other one is reset to the zero of its type. -/
def Property.afterSnapshot (property : Property) (isAssigned : Bool) (value : Value) : Value :=
  if isAssigned then value else property.type.zero property.nullable

/-- A field without an adapter reads back what becomes of a value in a snapshot. -/
theorem Field.eq_afterSnapshot {field : Field} (hplain : field.property.adapter = none) {isAssigned : Bool}
    {value back : Value} (h : field.reread isAssigned value = .ok back) :
    back = field.property.afterSnapshot isAssigned value := by
  unfold Field.reread at h
  unfold Property.afterSnapshot
  cases isAssigned with
  | true =>
    rw [if_pos rfl, bind_eq_ok] at h
    rcases h with ⟨stored, hstored, hlogical⟩
    rw [Field.logical_of_plain hplain] at hlogical
    rw [if_pos rfl, ← Except.ok.inj hlogical, Field.eq_of_stored hplain hstored]
  | false =>
    rw [if_neg Bool.false_ne_true, Field.zero_of_plain hplain] at h
    exact (Except.ok.inj h).symm

/-- The snapshot of a row, without adapters, holds the states of the properties and what becomes of each value. -/
theorem RecordFormat.exists_contents {format : RecordFormat} (hfields : FieldsOf format.schema format)
    (hplain : ∀ property ∈ format.schema.properties, property.adapter = none) {row : Row} {slots : Slots}
    {bytes : Bytes} (hencode : format.encodeSnapshot row slots = .ok bytes) :
    ∃ found states, format.snapshot.contents bytes = .ok (found, states) ∧
      (∀ ordinal < format.schema.size, states.get ordinal = slots.get ordinal) ∧
      ∀ (ordinal : Nat) (property : Property) (value : Value), format.schema.properties[ordinal]? = some property →
        row[ordinal]? = some value →
          found[ordinal]? = some (property.afterSnapshot (slots.isAssigned ordinal) value) := by
  have hplainFields : ∀ field ∈ format.snapshot.fields, field.property.adapter = none := by
    intro field hfield
    apply hplain
    rw [← hfields.all]
    exact List.mem_map_of_mem hfield
  rcases bind_eq_ok.mp hencode with ⟨_, -, hlayout⟩
  rcases SnapshotLayout.encode_eq_ok.mp hlayout with ⟨-, run, hrun, -⟩
  rcases hrun.exists_rereadFrom hplainFields with ⟨found, hfound⟩
  rcases SnapshotLayout.contents_written hlayout with ⟨states, hstates, hcontents⟩
  rw [hfound] at hcontents
  rw [hfields.length_eq] at hstates
  refine ⟨found, states, hcontents, hstates, ?_⟩
  intro ordinal property value hproperty hvalue
  rw [← hfields.all, List.getElem?_map, Option.map_eq_some_iff] at hproperty
  rcases hproperty with ⟨field, hfield, rfl⟩
  rcases SnapshotLayout.getElem?_rereadFrom hfound hfield hvalue with ⟨back, hback, hreread⟩
  rw [Nat.zero_add] at hreread
  rw [hback, Field.eq_afterSnapshot (hplainFields field (List.mem_of_getElem? hfield)) hreread]

namespace Binding

variable {σ : Type} {binding : Binding σ}

/-! ## Writing what can be set -/

/-- The writers of the key set what was read of a key, where it can be set. -/
theorem exists_decodeKey (h : binding.WellBuilt) {key : Bytes} {values : List Value}
    (hdecode : binding.format.key.decode key .all = .ok values)
    (hset : ∀ ordinal value, (ordinal, value) ∈ binding.format.schema.key.zip values →
      binding.Settable ordinal value) (target : σ) :
    ∃ after, binding.decodeKey key target = .ok () after ∧
      Row.store? (binding.values target) (binding.format.schema.key.zip values) = some (binding.values after) ∧
      binding.states after = binding.states target := by
  have hsets := setsAll_decodeKey h key target
  rw [hdecode] at hsets
  exact hsets.2.2.exists_after hset

/-- The writers outside the key set what was read of data, where it can be set. -/
theorem exists_decodeData (h : binding.WellBuilt) {data : Bytes} {expected : Option Nat} {values : List Value}
    (hdecode : binding.format.data.decode data expected = .ok values)
    (hset : ∀ ordinal value, (ordinal, value) ∈ binding.format.schema.data.zip values →
      binding.Settable ordinal value) (target : σ) :
    ∃ after, binding.decodeData data expected target = .ok () after ∧
      Row.store? (binding.values target) (binding.format.schema.data.zip values) = some (binding.values after) ∧
      binding.states after = binding.states target := by
  have hsets := setsAll_decodeData h data expected target
  rw [hdecode] at hsets
  exact hsets.2.2.exists_after hset

/-! ## Keys and data -/

/-- The values of a row come back: those of the key up to NaNs and equal decimals, the others as they are. -/
def ReadBack (schema : Schema) (original found : Row) : Prop :=
  ∀ (ordinal : Nat) (value : Value), original[ordinal]? = some value →
    ∃ back, found[ordinal]? = some back ∧ (ordinal ∈ schema.key → Value.Restores value back) ∧
      (ordinal ∉ schema.key → back = value)

/-- The key and the data of an object bring its values back in any other object, whichever is read first. -/
theorem exists_readBack (h : binding.WellBuilt) (hlawful : binding.Lawful)
    (hplain : ∀ property ∈ binding.format.schema.properties, property.adapter = none) {source : σ}
    {key data : Bytes} {generation : Option Nat}
    (hkey : binding.format.encodeKey (binding.values source) .all = .ok key)
    (hdata : binding.format.encodeData (binding.values source) generation = .ok data)
    (hrestored : ∀ ordinal ∈ binding.format.schema.key, ∀ value,
      (binding.values source)[ordinal]? = some value → binding.Settable ordinal value.restored) (target : σ) :
    (∃ middle after, binding.decodeKey key target = .ok () middle ∧
      binding.decodeData data generation middle = .ok () after ∧
      ReadBack binding.format.schema (binding.values source) (binding.values after) ∧
      binding.states after = binding.states target) ∧
    ∃ middle after, binding.decodeData data generation target = .ok () middle ∧
      binding.decodeKey key middle = .ok () after ∧
      ReadBack binding.format.schema (binding.values source) (binding.values after) ∧
      binding.states after = binding.states target := by
  rcases RecordFormat.encodeKey_eq_ok.mp hkey with ⟨hlength, keyValues, hkeyValues, hkeyEncode⟩
  rcases RecordFormat.encodeData_eq_ok.mp hdata with ⟨-, dataValues, hdataValues, hdataEncode⟩
  have hkeyHolds := Row.holds_of_select? hkeyValues
  have hdataHolds := Row.holds_of_select? hdataValues
  have hkeyLength := Row.length_select? hkeyValues
  have hdataLength := Row.length_select? hdataValues
  rcases KeyLayout.decode_encode_of_plain (h.fields.plain hplain h.fields.key)
    (hkeyLength.trans h.fields.key.length_eq) hkeyEncode with ⟨hkeyDecode, hrestores⟩
  have hdataDecode : binding.format.data.decode data generation = .ok dataValues := by
    rw [DataLayout.decode,
      DataLayout.decodeChecked_encode_of_plain (h.fields.plain hplain h.fields.data) hdataEncode]
    rfl
  -- What is set is a value of the source, or what is read back of one.
  have hkeySet : ∀ ordinal value, (ordinal, value) ∈ binding.format.schema.key.zip (keyValues.map Value.restored) →
      binding.Settable ordinal value := by
    intro ordinal value hmem
    rw [List.zip_map_right, List.mem_map] at hmem
    rcases hmem with ⟨⟨first, given⟩, hgiven, hpair⟩
    cases hpair
    exact hrestored first (List.of_mem_zip hgiven).1 given (hkeyHolds.of_mem_zip hgiven)
  have hdataSet : ∀ ordinal value, (ordinal, value) ∈ binding.format.schema.data.zip dataValues →
      binding.Settable ordinal value := by
    intro ordinal value hmem
    exact hlawful.set ordinal value source (hdataHolds.of_mem_zip hmem)
  have hback : ∀ found : Row, RecordFormat.Rebuilt binding.format keyValues dataValues found →
      ReadBack binding.format.schema (binding.values source) found := by
    intro found hfound ordinal value hvalue
    exact hfound.getElem? h.shared hlength hkeyLength hdataLength hkeyHolds hdataHolds hrestores hvalue
  constructor
  · rcases exists_decodeKey h hkeyDecode hkeySet target with ⟨middle, hmiddle, hkeyStored, hkeyStates⟩
    rcases exists_decodeData h hdataDecode hdataSet middle with ⟨after, hafter, hdataStored, hdataStates⟩
    exact ⟨middle, after, hmiddle, hafter,
      hback _ (RecordFormat.rebuilt_of_key_first h.shared (h.length_values target) hkeyStored hdataStored),
      hdataStates.trans hkeyStates⟩
  · rcases exists_decodeData h hdataDecode hdataSet target with ⟨middle, hmiddle, hdataStored, hdataStates⟩
    rcases exists_decodeKey h hkeyDecode hkeySet middle with ⟨after, hafter, hkeyStored, hkeyStates⟩
    exact ⟨middle, after, hmiddle, hafter,
      hback _ (RecordFormat.rebuilt_of_data_first h.shared (h.length_values target) hdataStored hkeyStored),
      hkeyStates.trans hdataStates⟩

/-! ## Snapshots -/

/-- The snapshot of an object brings its states back in any other object.  Where these are kept apart from the
properties, it brings the assigned values back, and resets the other ones there. -/
theorem exists_snapshot_readBack (h : binding.WellBuilt) (hlawful : binding.Lawful)
    (hplain : ∀ property ∈ binding.format.schema.properties, property.adapter = none) {access : SlotAccess σ}
    (haccess : binding.slots = some access) {source : σ} {bytes : Bytes}
    (hencode : binding.format.encodeSnapshot (binding.values source) (access.get source) = .ok bytes)
    (hzero : ∀ ordinal property, binding.format.schema.properties[ordinal]? = some property →
      binding.Settable ordinal (property.type.zero property.nullable)) (target : σ) :
    ∃ after, binding.decodeSnapshot bytes target = .ok () after ∧
      (binding.SlotsApart → ∀ (ordinal : Nat) (property : Property) (value : Value),
        binding.format.schema.properties[ordinal]? = some property →
          (binding.values source)[ordinal]? = some value →
            (binding.values after)[ordinal]? =
              some (property.afterSnapshot ((access.get source).isAssigned ordinal) value)) ∧
      ∀ ordinal < binding.format.schema.size,
        (access.get after).get ordinal = (access.get source).get ordinal := by
  rcases RecordFormat.exists_contents h.fields hplain hencode with ⟨found, states, hcontents, hstates, hfound⟩
  have hlength : found.length = binding.format.schema.size :=
    (SnapshotLayout.length_contents hcontents).trans h.fields.length_eq
  rcases exists_sets_decodeSnapshot h haccess bytes target with ⟨result, replaced, hsets, hdecode, hreplaced⟩
  rw [hcontents] at hsets
  -- What is set is a value of the source where it is assigned, and a zero elsewhere.
  have hset : ∀ ordinal value, (ordinal, value) ∈ (List.range binding.format.schema.size).zip found →
      binding.Settable ordinal value := by
    intro ordinal value hmem
    have hlt : ordinal < binding.format.schema.size := List.mem_range.mp (List.of_mem_zip hmem).1
    have hholds := Row.holds_of_select? (Row.select?_range found)
    rw [hlength] at hholds
    have hat := hholds.of_mem_zip hmem
    obtain ⟨property, hproperty⟩ : ∃ property, binding.format.schema.properties[ordinal]? = some property :=
      ⟨_, List.getElem?_eq_getElem hlt⟩
    obtain ⟨given, hgiven⟩ : ∃ given, (binding.values source)[ordinal]? = some given :=
      ⟨_, List.getElem?_eq_getElem (by rwa [h.length_values])⟩
    cases hat.symm.trans (hfound ordinal property given hproperty hgiven)
    cases (access.get source).isAssigned ordinal with
    | true => exact hlawful.set ordinal given source hgiven
    | false => exact hzero ordinal property hproperty
  rcases hsets.2.2.exists_after hset with ⟨after, rfl, hstored, -⟩
  refine ⟨access.put replaced after, hdecode, ?_, ?_⟩
  · intro hapart ordinal property value hproperty hvalue
    have hlt : ordinal < binding.format.schema.size := (List.getElem?_eq_some_iff.mp hproperty).1
    rw [hapart access haccess]
    exact Row.getElem?_store? hstored List.nodup_range (List.getElem?_range hlt)
      (hfound ordinal property value hproperty hvalue)
  · intro ordinal hlt
    rw [hlawful.put access haccess, hreplaced found states hcontents, Slots.get_replaceFirst, if_pos hlt,
      hstates ordinal hlt]

/-! ## Bindings that were built -/

/-- Over a lawful binding that was built without adapters, each accessor of which was given under the name of the
property at its ordinal, objects are read back.  A key and the data of one object, read in either order, bring its
values back in any other one, up to NaNs and equal decimals in the key, where these can be set.  Its snapshot is that
of the values that all readers find, though only those of the assigned properties are called.  Where zeros can be
set, it brings the states back in any other object, and, where replacing the states changes no value, the assigned
values, and resets all other values there. -/
theorem objects_read_back {typeName : String} {declarations : List Declaration} {schema : Schema}
    {padding : RecordPadding} {format : RecordFormat} {requests : List (Request σ)}
    (hschema : Schema.build declarations = .ok schema)
    (hformat : RecordFormat.build typeName schema padding = .ok format)
    (hbinding : ((Builder.start format).follow requests).build = .ok binding)
    (hplain : ∀ property ∈ schema.properties, property.adapter = none) (hlawful : binding.Lawful) (source : σ) :
    (∀ ordinal accessor, binding.accessors[ordinal]? = some accessor →
      ∃ property, schema.find? property.name = some property ∧ property.ordinal = ordinal ∧
        .bind property.name accessor ∈ requests) ∧
    (∀ key data generation afterKey afterData, binding.encodeKey .all source = .ok key afterKey →
      binding.encodeData generation source = .ok data afterData →
      (∀ ordinal ∈ schema.key, ∀ value, (binding.values source)[ordinal]? = some value →
        binding.Settable ordinal value.restored) →
      ∀ target,
        (∃ middle after, binding.decodeKey key target = .ok () middle ∧
          binding.decodeData data generation middle = .ok () after ∧
          ReadBack schema (binding.values source) (binding.values after) ∧
          binding.states after = binding.states target) ∧
        ∃ middle after, binding.decodeData data generation target = .ok () middle ∧
          binding.decodeKey key middle = .ok () after ∧
          ReadBack schema (binding.values source) (binding.values after) ∧
          binding.states after = binding.states target) ∧
    ∀ access, binding.slots = some access →
      (∃ found after, Gets binding ((access.get source).assigned.filter (· < schema.size)) source found after ∧
        binding.encodeSnapshot source =
          ofExcept (format.encodeSnapshot (binding.values source) (access.get source)) after) ∧
      ∀ bytes afterSource, binding.encodeSnapshot source = .ok bytes afterSource →
        (∀ ordinal property, schema.properties[ordinal]? = some property →
          binding.Settable ordinal (property.type.zero property.nullable)) →
        ∀ target, ∃ after, binding.decodeSnapshot bytes target = .ok () after ∧
          (binding.SlotsApart → ∀ (ordinal : Nat) (property : Property) (value : Value),
            schema.properties[ordinal]? = some property → (binding.values source)[ordinal]? = some value →
              (binding.values after)[ordinal]? =
                some (property.afterSnapshot ((access.get source).isAssigned ordinal) value)) ∧
          ∀ ordinal < schema.size, (access.get after).get ordinal = (access.get source).get ordinal := by
  have h := wellBuilt_of_build hschema hformat hbinding
  obtain rfl : format.schema = schema := RecordFormat.schema_of_build hformat
  obtain rfl : binding.format = format := Builder.format_of_build hbinding
  refine ⟨fun ordinal accessor haccessor => Builder.given_of_build hbinding haccessor, ?_, ?_⟩
  · intro key data generation afterKey afterData hkey hdata hrestored target
    rcases exists_gets_encodeKey h hlawful .all source with ⟨-, _, -, -, hkeyEncode⟩
    rcases exists_gets_encodeData h hlawful generation source with ⟨-, _, -, -, hdataEncode⟩
    rw [hkeyEncode, ofExcept_eq_ok] at hkey
    rw [hdataEncode, ofExcept_eq_ok] at hdata
    exact exists_readBack h hlawful hplain hkey.1 hdata.1 hrestored target
  · intro access haccess
    rcases exists_gets_encodeSnapshot h hlawful haccess source with ⟨found, after, hgets, -, hencode⟩
    refine ⟨⟨found, after, hgets, hencode⟩, ?_⟩
    intro bytes afterSource hbytes hzero target
    rw [hencode, ofExcept_eq_ok] at hbytes
    exact exists_snapshot_readBack h hlawful hplain haccess hbytes.1 hzero target

/-- A property of an object that keeps its values by ordinal, and takes any value. -/
def kept (ordinal : Nat) : Accessor ((Nat → Value) × Slots) where
  get host := (host.1 ordinal, host)
  set value := fun (values, slots) => .ok () (Function.update values ordinal value, slots)

/-- A record that is kept by ordinal. -/
def keptRecord : Binding ((Nat → Value) × Slots) where
  format := RecordFormat.interleavedRecord
  accessors := [kept 0, kept 1, kept 2, kept 3]
  slots := some ⟨Prod.snd, fun slots (values, _) => (values, slots)⟩

theorem settable_keptRecord (ordinal : Nat) (value : Value) : keptRecord.Settable ordinal value := by
  intro accessor haccessor host
  have hlt : ordinal < 4 := (List.getElem?_eq_some_iff.mp haccessor).1
  refine ⟨(Function.update host.1 ordinal value, host.2), ?_, ?_, rfl⟩
  · interval_cases ordinal <;> cases haccessor <;> rfl
  · interval_cases ordinal <;> rfl

theorem lawful_keptRecord : keptRecord.Lawful := by
  refine ⟨?_, fun ordinal value _ _ => settable_keptRecord ordinal value, ?_⟩
  · intro accessor haccessor host
    simp only [keptRecord, List.mem_cons, List.not_mem_nil, or_false] at haccessor
    rcases haccessor with rfl | rfl | rfl | rfl <;> exact Same.refl host
  · rintro _ ⟨⟩ slots host
    rfl

theorem slotsApart_keptRecord : keptRecord.SlotsApart := by
  rintro _ ⟨⟩ slots host
  rfl

/-- A record with a NaN in its key, of which the flag was loaded and the reading assigned. -/
def measured : (Nat → Value) × Slots :=
  (fun
    | 0 => .of .bool true
    | 1 => .of (.signed .w16) 7
    | 2 => .null
    | _ => .of (.float .double) 0x7FF8000000000001#64,
  ((Slots.empty 6).set 0 .clean).set 3 .dirty)

/-- This record is read back into any other one: with another NaN from its key and data, with its own NaN from its
snapshot, which resets the rank. -/
theorem objects_read_back_measured :
    (∀ target, ∃ middle after,
      keptRecord.decodeKey [0, 0x00, 0x07, 0xFF, 0xFF, 0xFF, 0xFF, 0xFF, 0xFF, 0x80, 0x07] target =
        .ok () middle ∧
      keptRecord.decodeData [5, 1, 0xFF] (some 5) middle = .ok () after ∧ after.1 0 = .of .bool true ∧
      Value.Restores (.of (.float .double) 0x7FF8000000000001#64) (after.1 3)) ∧
    ∀ target, ∃ after,
      keptRecord.decodeSnapshot [0xC1, 1, 0x7F, 0xF8, 0, 0, 0, 0, 0, 1] target = .ok () after ∧
        after.1 1 = .of (.signed .w16) 0 ∧ after.1 3 = .of (.float .double) 0x7FF8000000000001#64 ∧
        after.2.get 3 = .dirty := by
  have hschema : Schema.build RecordFormat.interleaved = .ok RecordFormat.interleavedRecord.schema := rfl
  have hformat : RecordFormat.build "Interleaved" RecordFormat.interleavedRecord.schema
      RecordFormat.interleavedRecord.padding = .ok RecordFormat.interleavedRecord := rfl
  have hbinding : ((Builder.start RecordFormat.interleavedRecord).follow
      [.bind "reading" (kept 3), .bind "rank" (kept 1),
        .trackSlots ⟨Prod.snd, fun slots (values, _) => (values, slots)⟩, .bind "flag" (kept 0),
        .bind "label" (kept 2)]).build = .ok keptRecord := rfl
  have hplain : ∀ property ∈ RecordFormat.interleavedRecord.schema.properties, property.adapter = none := by
    simp [RecordFormat.interleavedRecord, Field.placedAt, Field.plain]
  have hkey : keptRecord.encodeKey .all measured =
      .ok [0, 0x00, 0x07, 0xFF, 0xFF, 0xFF, 0xFF, 0xFF, 0xFF, 0x80, 0x07] measured := rfl
  have hdata : keptRecord.encodeData (some 5) measured = .ok [5, 1, 0xFF] measured := rfl
  have hsnapshot : keptRecord.encodeSnapshot measured =
      .ok [0xC1, 1, 0x7F, 0xF8, 0, 0, 0, 0, 0, 1] measured := rfl
  rcases objects_read_back hschema hformat hbinding hplain lawful_keptRecord measured with ⟨-, hdatas, hsnapshots⟩
  constructor
  · intro target
    rcases (hdatas _ _ _ _ _ hkey hdata (fun _ _ _ _ => settable_keptRecord _ _) target).1 with
      ⟨middle, after, hmiddle, hafter, hback, -⟩
    rcases hback 0 _ rfl with ⟨flag, hflag, -, hflagSame⟩
    rcases hback 3 _ rfl with ⟨reading, hreading, hrestores, -⟩
    cases hflag
    cases hreading
    exact ⟨middle, after, hmiddle, hafter, hflagSame (by decide), hrestores (by decide)⟩
  · intro target
    rcases (hsnapshots _ rfl).2 _ _ hsnapshot (fun _ _ _ => settable_keptRecord _ _) target with
      ⟨after, hafter, hvalues, hstates⟩
    have hfound := hvalues slotsApart_keptRecord
    exact ⟨after, hafter, Option.some.inj (hfound 1 _ _ rfl rfl), Option.some.inj (hfound 3 _ _ rfl rfl),
      hstates 3 (by decide)⟩

/-- A flag that is set before its state becomes dirty is found false: the laws alone bring no assigned value back. -/
theorem not_all_snapshots_read_back :
    ¬ ∀ (σ : Type) (typeName : String) (declarations : List Declaration) (schema : Schema) (padding : RecordPadding)
      (format : RecordFormat) (requests : List (Request σ)) (binding : Binding σ),
      Schema.build declarations = .ok schema → RecordFormat.build typeName schema padding = .ok format →
      ((Builder.start format).follow requests).build = .ok binding →
      (∀ property ∈ schema.properties, property.adapter = none) → binding.Lawful →
      (∀ ordinal property, schema.properties[ordinal]? = some property →
        binding.Settable ordinal (property.type.zero property.nullable)) →
      ∀ access source bytes afterSource target after, binding.slots = some access →
        binding.encodeSnapshot source = .ok bytes afterSource → binding.decodeSnapshot bytes target = .ok () after →
          ∀ (ordinal : Nat) (value : Value), (access.get source).isAssigned ordinal = true →
            (binding.values source)[ordinal]? = some value → (binding.values after)[ordinal]? = some value := by
  intro hall
  have hschema : Schema.build [⟨.data, none, (Field.plain "flag" .bool false .unspecified).property⟩] =
      .ok DataLayout.flagRecord.schema := rfl
  have hformat : RecordFormat.build "Flag" DataLayout.flagRecord.schema DataLayout.flagRecord.padding =
      .ok DataLayout.flagRecord := rfl
  have hbinding : ((Builder.start DataLayout.flagRecord).follow
      [.bind "flag" entangledFlag, .trackSlots entangledSlots]).build = .ok entangledRecord := rfl
  have hplain : ∀ property ∈ DataLayout.flagRecord.schema.properties, property.adapter = none := by decide
  have hzero : ∀ ordinal property, DataLayout.flagRecord.schema.properties[ordinal]? = some property →
      entangledRecord.Settable ordinal (property.type.zero property.nullable) := by
    intro ordinal property hproperty
    rcases Nat.lt_one_iff.mp (List.getElem?_eq_some_iff.mp hproperty).1 with rfl
    cases hproperty
    exact settable_entangled false
  have hsource : entangledRecord.encodeSnapshot (false, (Slots.empty 1).set 0 .dirty) =
      .ok [3, 1] (false, (Slots.empty 1).set 0 .dirty) := rfl
  have htarget : entangledRecord.decodeSnapshot [3, 1] (false, Slots.empty 1) =
      .ok () (true, (Slots.empty 1).set 0 .dirty) := rfl
  have hfound := hall _ _ _ _ _ _ _ _ hschema hformat hbinding hplain lawful_entangled hzero _ _ _ _ _ _ rfl
    hsource htarget 0 (.of .bool true) rfl rfl
  revert hfound
  decide

end Binding
end RecordBytes
