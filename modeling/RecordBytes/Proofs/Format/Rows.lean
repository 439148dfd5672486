import Mathlib
import RecordBytes.Format
import RecordBytes.Proofs.Fault.Outcome
import RecordBytes.Proofs.Schema.Placed

/-!
# Rows of a record format

A format works on rows that hold one value for each property, and takes from a row the values at the
ordinals that it needs, or puts values there.

Main results:

- `Row.getElem?_select?`, `Row.select?_isSome_iff`: the values of a row at some ordinals.
- `Row.getElem?_store?`: a row with values stored at some ordinals.
- `RecordFormat.encodeKey_eq_ok`: a key is written for the values at the key ordinals.
- `RecordFormat.decodeDataChecked_eq_current`, `RecordFormat.decodeData_eq_ok`: data is put into a row at the
  data ordinals.
- `RecordFormat.fieldsOf_of_build`: the fields of a built format are those at the ordinals of its schema.
- `RecordFormat.length_key_of_build`, `RecordFormat.length_data_of_build`: a built format has a key field for
  each key ordinal and a data field for each data ordinal.
-/

namespace RecordBytes

open Outcome

/-! ## Values at ordinals -/

namespace Row

theorem select?_cons {row : Row} {ordinal : Nat} {ordinals : List Nat} {values : List Value} :
    Row.select? row (ordinal :: ordinals) = some values ↔
      ∃ value rest, row[ordinal]? = some value ∧ Row.select? row ordinals = some rest ∧
        value :: rest = values := by
  unfold select?
  rw [List.mapM_cons]
  simp only [Option.bind_eq_bind, Option.bind_eq_some_iff, Option.pure_def, Option.some.injEq]
  constructor
  · intro h
    rcases h with ⟨value, hvalue, rest, hrest, rfl⟩
    exact ⟨value, rest, hvalue, hrest, rfl⟩
  · intro h
    rcases h with ⟨value, rest, hvalue, hrest, rfl⟩
    exact ⟨value, hvalue, rest, hrest, rfl⟩

/-- Selecting finds the value of the row at each of the ordinals. -/
theorem getElem?_select? {row : Row} {ordinals : List Nat} {values : List Value}
    (h : Row.select? row ordinals = some values) (index : Nat) :
    values[index]? = ordinals[index]?.bind (row[·]?) := by
  induction ordinals generalizing values index with
  | nil =>
    obtain rfl : [] = values := by simpa [select?] using h
    simp
  | cons ordinal ordinals ih =>
    rcases select?_cons.mp h with ⟨value, rest, hvalue, hrest, rfl⟩
    cases index with
    | zero => simp [hvalue]
    | succ index => simpa using ih hrest index

theorem length_select? {row : Row} {ordinals : List Nat} {values : List Value}
    (h : Row.select? row ordinals = some values) : values.length = ordinals.length := by
  induction ordinals generalizing values with
  | nil =>
    obtain rfl : [] = values := by simpa [select?] using h
    rfl
  | cons ordinal ordinals ih =>
    rcases select?_cons.mp h with ⟨value, rest, -, hrest, rfl⟩
    simp [ih hrest]

/-- A row has a value at each of some ordinals exactly when it is long enough for them. -/
theorem select?_isSome_iff {row : Row} {ordinals : List Nat} :
    (∃ values, Row.select? row ordinals = some values) ↔ ∀ ordinal ∈ ordinals, ordinal < row.length := by
  induction ordinals with
  | nil => simp [select?]
  | cons ordinal ordinals ih =>
    simp only [select?_cons, List.forall_mem_cons, ← ih]
    constructor
    · intro h
      rcases h with ⟨values, value, rest, hvalue, hrest, rfl⟩
      exact ⟨(List.getElem?_eq_some_iff.mp hvalue).1, rest, hrest⟩
    · intro h
      rcases h with ⟨hlt, rest, hrest⟩
      exact ⟨_, row[ordinal], rest, List.getElem?_eq_getElem hlt, hrest, rfl⟩

theorem store?_cons {row stored : Row} {ordinal : Nat} {value : Value} {rest : List (Nat × Value)} :
    Row.store? row ((ordinal, value) :: rest) = some stored ↔
      ordinal < row.length ∧ Row.store? (row.set ordinal value) rest = some stored := by
  rw [store?]
  split <;> simp [*]

/-- Storing changes nothing at other ordinals. -/
theorem getElem?_store?_of_not_mem {row stored : Row} {ordinals : List Nat} {values : List Value}
    (h : Row.store? row (ordinals.zip values) = some stored) {ordinal : Nat} (hother : ordinal ∉ ordinals) :
    stored[ordinal]? = row[ordinal]? := by
  induction ordinals generalizing row values with
  | nil =>
    rcases Option.some.inj h with rfl
    rfl
  | cons first ordinals ih =>
    cases values with
    | nil =>
      rcases Option.some.inj h with rfl
      rfl
    | cons value values =>
      rcases store?_cons.mp h with ⟨-, hrest⟩
      rw [List.mem_cons, not_or] at hother
      rw [ih hrest hother.2, List.getElem?_set_ne (Ne.symm hother.1)]

/-- Storing puts each value at its ordinal. -/
theorem getElem?_store? {row stored : Row} {ordinals : List Nat} {values : List Value}
    (h : Row.store? row (ordinals.zip values) = some stored) (hnodup : ordinals.Nodup) {index ordinal : Nat}
    {value : Value} (hordinal : ordinals[index]? = some ordinal) (hvalue : values[index]? = some value) :
    stored[ordinal]? = some value := by
  induction ordinals generalizing row values index with
  | nil => cases hordinal
  | cons first ordinals ih =>
    cases values with
    | nil => cases hvalue
    | cons head values =>
      rcases store?_cons.mp h with ⟨hlt, hrest⟩
      rcases List.nodup_cons.mp hnodup with ⟨hfirst, hothers⟩
      cases index with
      | zero =>
        rw [List.getElem?_cons_zero, Option.some.injEq] at hordinal hvalue
        subst hordinal hvalue
        rw [getElem?_store?_of_not_mem hrest hfirst, List.getElem?_set_self hlt]
      | succ index =>
        rw [List.getElem?_cons_succ] at hordinal hvalue
        exact ih hrest hothers hordinal hvalue

theorem length_store? {row stored : Row} {pairs : List (Nat × Value)} (h : Row.store? row pairs = some stored) :
    stored.length = row.length := by
  induction pairs generalizing row with
  | nil =>
    rcases Option.some.inj h with rfl
    rfl
  | cons pair pairs ih =>
    rcases store?_cons.mp h with ⟨-, hrest⟩
    rw [ih hrest, List.length_set]

/-- Values are stored at ordinals that the row is long enough for. -/
theorem exists_store? {row : Row} {ordinals : List Nat} (h : ∀ ordinal ∈ ordinals, ordinal < row.length)
    (values : List Value) : ∃ stored, Row.store? row (ordinals.zip values) = some stored := by
  induction ordinals generalizing row values with
  | nil => exact ⟨row, rfl⟩
  | cons ordinal ordinals ih =>
    cases values with
    | nil => exact ⟨row, rfl⟩
    | cons value values =>
      have hothers : ∀ other ∈ ordinals, other < (row.set ordinal value).length := by
        intro other hother
        rw [List.length_set]
        exact h other (List.mem_cons_of_mem _ hother)
      rcases ih hothers values with ⟨stored, hstored⟩
      exact ⟨stored, store?_cons.mpr ⟨h ordinal List.mem_cons_self, hstored⟩⟩

end Row

/-! ## Built formats -/

namespace RecordFormat

/-- Steps taken for all of some items are taken for each one. -/
theorem forall₂_of_mapM {α β ε : Type} {f : α → Except ε β} {items : List α} {found : List β}
    (h : items.mapM f = .ok found) : List.Forall₂ (fun item given => f item = .ok given) items found := by
  induction items generalizing found with
  | nil =>
    obtain rfl : [] = found := by simpa [pure_eq_ok] using h
    exact List.Forall₂.nil
  | cons item items ih =>
    simp only [List.mapM_cons, bind_eq_ok, pure_eq_ok] at h
    rcases h with ⟨first, hfirst, rest, hrest, rfl⟩
    exact List.Forall₂.cons hfirst (ih hrest)

theorem length_of_mapM {α β ε : Type} {f : α → Except ε β} {items : List α} {found : List β}
    (h : items.mapM f = .ok found) : found.length = items.length :=
  (forall₂_of_mapM h).length_eq.symm

/-- A row passes the check when it has one value for each property. -/
theorem checkRow_eq_ok {format : RecordFormat} {row : Row} {found : Unit} :
    format.checkRow row = .ok found ↔ row.length = format.schema.size := by
  unfold checkRow
  by_cases hlength : row.length = format.schema.size
  · simp [hlength]
  · simp [hlength]

/-- A key is written for a row with one value for each property. -/
theorem encodeKey_eq_ok {format : RecordFormat} {row : Row} {bounds : Bounds} {bytes : Bytes} :
    format.encodeKey row bounds = .ok bytes ↔
      row.length = format.schema.size ∧ ∃ values, Row.select? row format.schema.key = some values ∧
        format.key.encode values bounds = .ok bytes := by
  unfold encodeKey
  simp only [bind_eq_ok, lift_refusal_eq_ok, checkRow_eq_ok, inBounds_eq_ok, exists_const]

/-- Data is written for a row with one value for each property. -/
theorem encodeData_eq_ok {format : RecordFormat} {row : Row} {generation : Option Nat} {bytes : Bytes} :
    format.encodeData row generation = .ok bytes ↔
      row.length = format.schema.size ∧ ∃ values, Row.select? row format.schema.data = some values ∧
        format.data.encode values generation = .ok bytes := by
  unfold encodeData
  simp only [bind_eq_ok, lift_refusal_eq_ok, checkRow_eq_ok, inBounds_eq_ok, exists_const]

/-- A row takes the values of data of the expected generation at the data ordinals. -/
theorem decodeDataChecked_eq_current {format : RecordFormat} {bytes : Bytes}
    {expected : Option Nat} {row stored : Row} :
    format.decodeDataChecked bytes expected row = .ok (.current stored) ↔
      row.length = format.schema.size ∧
        ∃ values, format.data.decodeChecked bytes expected = .ok (.current values) ∧
          Row.store? row (format.schema.data.zip values) = some stored := by
  unfold decodeDataChecked
  simp only [bind_eq_ok, lift_refusal_eq_ok, checkRow_eq_ok, exists_const]
  constructor
  · rintro ⟨hlength, outcome, houtcome, hrest⟩
    cases outcome with
    | foreign generation => simp at hrest
    | current values =>
      simp only [bind_eq_ok, inBounds_eq_ok, pure_eq_ok] at hrest
      rcases hrest with ⟨found, hfound, hsame⟩
      cases hsame
      exact ⟨hlength, values, houtcome, hfound⟩
  · rintro ⟨hlength, values, houtcome, hstored⟩
    exact ⟨hlength, .current values, houtcome, by simp [hstored, inBounds]⟩

/-- Foreign data is foreign to a row of the right length. -/
theorem decodeDataChecked_eq_foreign {format : RecordFormat} {bytes : Bytes} {expected : Option Nat} {row : Row}
    {actual : Nat} :
    format.decodeDataChecked bytes expected row = .ok (.foreign actual) ↔
      row.length = format.schema.size ∧ format.data.decodeChecked bytes expected = .ok (.foreign actual) := by
  unfold decodeDataChecked
  simp only [bind_eq_ok, lift_refusal_eq_ok, checkRow_eq_ok, exists_const]
  constructor
  · rintro ⟨hlength, outcome, houtcome, hrest⟩
    cases outcome with
    | foreign generation =>
      rw [pure_eq_ok] at hrest
      cases hrest
      exact ⟨hlength, houtcome⟩
    | current values =>
      simp only [bind_eq_ok, pure_eq_ok] at hrest
      rcases hrest with ⟨stored, -, hsame⟩
      cases hsame
  · rintro ⟨hlength, houtcome⟩
    exact ⟨hlength, .foreign actual, houtcome, rfl⟩

/-- Without a handler, only data of the expected generation is put into a row. -/
theorem decodeData_eq_ok {format : RecordFormat} {bytes : Bytes} {expected : Option Nat} {σ : Type}
    {host host' : σ} {row row' : Row} {found : Unit} :
    format.decodeData bytes expected none (host, row) = .ok found (host', row') ↔
      host = host' ∧ format.decodeDataChecked bytes expected row = .ok (.current row') := by
  cases hchecked : format.decodeDataChecked bytes expected row with
  | error fault => simp [decodeData, hchecked]
  | ok outcome =>
    cases outcome with
    | foreign actual => simp [decodeData, hchecked]
    | current stored => simp [decodeData, hchecked]

/-- A built format reserves the same bytes around its keys as its layout does. -/
theorem padding_of_build {typeName : String} {schema : Schema} {padding : RecordPadding}
    {format : RecordFormat} (h : build typeName schema padding = .ok format) :
    format.key.padding = format.padding.key := by
  unfold build at h
  simp only [bind_eq_ok, pure_eq_ok] at h
  rcases h with ⟨keyFields, -, dataFields, -, allFields, -, rfl⟩
  rfl

/-- A built format has a key field for each key ordinal that lies in its rows. -/
theorem length_key_of_build {typeName : String} {schema : Schema} {padding : RecordPadding}
    {format : RecordFormat} (h : build typeName schema padding = .ok format)
    (hordinals : ∀ ordinal ∈ format.schema.key, ordinal < format.schema.size) :
    format.key.fields.length = format.schema.key.length := by
  unfold build at h
  simp only [bind_eq_ok, pure_eq_ok] at h
  rcases h with ⟨keyFields, hkey, dataFields, -, allFields, -, rfl⟩
  rw [length_of_mapM hkey]
  exact Schema.length_select hordinals

/-- A format is built of its schema. -/
theorem schema_of_build {typeName : String} {schema : Schema} {padding : RecordPadding}
    {format : RecordFormat} (h : build typeName schema padding = .ok format) : format.schema = schema := by
  unfold build at h
  simp only [bind_eq_ok, pure_eq_ok] at h
  rcases h with ⟨keyFields, -, dataFields, -, allFields, -, rfl⟩
  rfl

/-- A built format has a data field for each data ordinal that lies in its rows. -/
theorem length_data_of_build {typeName : String} {schema : Schema} {padding : RecordPadding}
    {format : RecordFormat} (h : build typeName schema padding = .ok format)
    (hordinals : ∀ ordinal ∈ schema.data, ordinal < schema.size) :
    format.data.fields.length = schema.data.length := by
  unfold build at h
  simp only [bind_eq_ok, pure_eq_ok] at h
  rcases h with ⟨keyFields, -, dataFields, hdata, allFields, -, rfl⟩
  rw [length_of_mapM hdata]
  exact Schema.length_select hordinals

theorem property_of_ofProperty {property : Property} {field : Field}
    (h : Field.ofProperty property = .ok field) : field.property = property := by
  unfold Field.ofProperty at h
  split at h
  · cases h
    rfl
  · cases h

/-- The fields of properties that are selected by their ordinals are those at these ordinals. -/
theorem fields_of_select {schema : Schema} {ordinals : List Nat} {all fields : List Field}
    (hall : schema.properties.mapM Field.ofProperty = .ok all)
    (h : (schema.select ordinals).mapM Field.ofProperty = .ok fields)
    (hordinals : ∀ ordinal ∈ ordinals, ordinal < schema.size) :
    List.Forall₂ (fun ordinal field => all[ordinal]? = some field) ordinals fields := by
  induction ordinals generalizing fields with
  | nil =>
    obtain rfl : [] = fields := by simpa [Schema.select, pure_eq_ok] using h
    exact List.Forall₂.nil
  | cons ordinal ordinals ih =>
    have hlt : ordinal < schema.properties.length := hordinals ordinal List.mem_cons_self
    have hselect : schema.select (ordinal :: ordinals) = schema.properties[ordinal] :: schema.select ordinals := by
      simp [Schema.select, hlt]
    rw [hselect, List.mapM_cons] at h
    simp only [bind_eq_ok, pure_eq_ok] at h
    rcases h with ⟨field, hfield, rest, hrest, rfl⟩
    have heach := forall₂_of_mapM hall
    have hsame := heach.get hlt (heach.length_eq ▸ hlt)
    simp only [List.get_eq_getElem] at hsame
    rw [hsame] at hfield
    refine List.Forall₂.cons ?_ (ih hrest fun other hother => hordinals other (List.mem_cons_of_mem _ hother))
    rw [← Except.ok.inj hfield]
    exact List.getElem?_eq_getElem _

/-- The fields of a built format: those of all properties by ordinal, and among them those of the key and of
the data at the ordinals of the schema. -/
structure FieldsOf (schema : Schema) (format : RecordFormat) : Prop where
  all : format.snapshot.fields.map Field.property = schema.properties
  key : List.Forall₂ (fun ordinal field => format.snapshot.fields[ordinal]? = some field) schema.key
    format.key.fields
  data : List.Forall₂ (fun ordinal field => format.snapshot.fields[ordinal]? = some field) schema.data
    format.data.fields

/-- The fields at some ordinals are among those of all properties. -/
theorem mem_of_forall₂ {format : RecordFormat} {ordinals : List Nat} {fields : List Field}
    (h : List.Forall₂ (fun ordinal field => format.snapshot.fields[ordinal]? = some field) ordinals fields) :
    ∀ field ∈ fields, field ∈ format.snapshot.fields := by
  intro field hfield
  induction h with
  | nil => cases hfield
  | cons hat _ ih =>
    rcases List.mem_cons.mp hfield with rfl | hother
    · exact List.mem_of_getElem? hat
    · exact ih hother

theorem FieldsOf.length_eq {schema : Schema} {format : RecordFormat} (h : FieldsOf schema format) :
    format.snapshot.fields.length = schema.size := by
  rw [Schema.size, ← h.all, List.length_map]

theorem FieldsOf.property_mem {schema : Schema} {format : RecordFormat} (h : FieldsOf schema format) {field : Field}
    (hfield : field ∈ format.snapshot.fields) : field.property ∈ schema.properties := by
  rw [← h.all]
  exact List.mem_map_of_mem hfield

/-- Without adapters in the schema, the fields of a layout have none. -/
theorem FieldsOf.plain {schema : Schema} {format : RecordFormat} (h : FieldsOf schema format)
    (hplain : ∀ property ∈ schema.properties, property.adapter = none) {ordinals : List Nat}
    {fields : List Field}
    (hfields : List.Forall₂ (fun ordinal field => format.snapshot.fields[ordinal]? = some field) ordinals fields) :
    ∀ field ∈ fields, field.property.adapter = none := by
  intro field hfield
  exact hplain _ (h.property_mem (mem_of_forall₂ hfields field hfield))

theorem fieldsOf_of_build {typeName : String} {schema : Schema} {padding : RecordPadding}
    {format : RecordFormat} (h : build typeName schema padding = .ok format)
    (hkey : ∀ ordinal ∈ schema.key, ordinal < schema.size)
    (hdata : ∀ ordinal ∈ schema.data, ordinal < schema.size) : FieldsOf schema format := by
  unfold build at h
  simp only [bind_eq_ok, pure_eq_ok] at h
  rcases h with ⟨keyFields, hkeyFields, dataFields, hdataFields, allFields, hall, rfl⟩
  refine ⟨?_, fields_of_select hall hkeyFields hkey, fields_of_select hall hdataFields hdata⟩
  have hsame : List.Forall₂ (fun property field => Field.property field = property) schema.properties allFields :=
    (forall₂_of_mapM hall).imp fun _ _ => property_of_ofProperty
  rw [← List.forall₂_eq_eq_eq, List.forall₂_map_left_iff]
  exact hsame.flip

/-- The ordinals of a schema that was built are those of its properties. -/
theorem fieldsOf_of_schema {typeName : String} {declarations : List Declaration} {schema : Schema}
    {padding : RecordPadding} {format : RecordFormat} (hschema : Schema.build declarations = .ok schema)
    (hbuild : build typeName schema padding = .ok format) : FieldsOf schema format :=
  fieldsOf_of_build hbuild (Schema.key_of_build hschema).2 (Schema.data_lt_of_build hschema)

end RecordFormat
end RecordBytes
