import Mathlib
import RecordBytes.Proofs.Data.Scanning
import RecordBytes.Proofs.Format.Rows

/-!
# Single fields of data

The value of one field is read from behind the cells before it, which are passed over, without a look at those
behind it.  Where data can be read at all, every field has the value that it has in the whole, and where all
fields can be read, data can, but for bytes left behind its last cell.  Data of another generation is no more
read field by field than it is as a whole.

Main results:

- `DataLayout.decodeField_of_decode`, `DataLayout.decodeField_of_foreign`: a field of data that was looked at as
  a whole.
- `DataLayout.decode_of_fields`: data of which all fields can be read.
- `DataLayout.decodeField_agrees`: fields and whole data, with the properties of a record at their ordinals.
-/

namespace RecordBytes

open Outcome

namespace DataLayout

variable {layout : DataLayout} {bytes : Bytes} {expected : Option Nat}

/-! ## From the whole to a field -/

/-- Where all values can be read from a place on, the value of each field can. -/
theorem readField_of_readValues {cursor after : Cursor} {values : List Value}
    (h : layout.readValues cursor = .ok values after) :
    values.length = layout.fields.length ∧
      ∀ (index : Nat) (field : Field) (value : Value), layout.fields[index]? = some field →
        values[index]? = some value → ∃ stop, layout.readField index field cursor = .ok value stop := by
  cases hbare : layout.bare? with
  | some field =>
    rcases bare?_eq_some hbare with ⟨hfields, -⟩
    rw [readValues, hbare] at h
    rcases Reading.bind_eq_ok.mp h with ⟨found, middle, hfound, hvalues⟩
    rcases Reading.pure_eq_ok.mp hvalues with ⟨rfl, rfl⟩
    refine ⟨by rw [hfields, List.length_singleton, List.length_singleton], ?_⟩
    intro index other value hother hvalue
    have hzero : index = 0 := by
      have hlt := (List.getElem?_eq_some_iff.mp hvalue).1
      simpa using hlt
    subst hzero
    rcases Option.some.inj hvalue with rfl
    rw [readField, hbare]
    exact ⟨middle, hfound⟩
  | none =>
    rw [readValues_of_not_bare hbare] at h
    rcases Reading.upToEnd_eq_ok.mp h with ⟨hread, -⟩
    refine ⟨Cells.length_read hread, ?_⟩
    intro index field value hfield hvalue
    rcases Cells.read_at hread hfield hvalue with ⟨middle, stop, hskip, hvalue⟩
    rw [readField, hbare]
    exact ⟨stop, Reading.bind_eq_ok.mpr ⟨(), middle, hskip, hvalue⟩⟩

/-- Where data can be read, each field can be read alone, and has the value that it has in the whole. -/
theorem decodeField_of_decode {values : List Value} (h : layout.decode bytes expected = .ok values) :
    values.length = layout.fields.length ∧
      ∀ (index : Nat) (value : Value), values[index]? = some value →
        layout.decodeField bytes expected index = .ok value := by
  rcases decode_eq_ok.mp h with ⟨cursor, after, hopens, hread⟩
  rcases readField_of_readValues hread with ⟨hlength, hall⟩
  refine ⟨hlength, ?_⟩
  intro index value hvalue
  have hindex : index < layout.fields.length := by
    rw [← hlength]
    exact (List.getElem?_eq_some_iff.mp hvalue).1
  have hfield : layout.fields[index]? = some layout.fields[index] := List.getElem?_eq_getElem hindex
  rcases hall index _ value hfield hvalue with ⟨stop, hreadField⟩
  exact (decodeField_eq_ok hfield).mpr ⟨cursor, stop, hopens, hreadField⟩

/-- Of data of another generation no field can be read alone: the mismatch is reported instead. -/
theorem decodeField_of_foreign {actual : Nat}
    (h : layout.decodeChecked bytes expected = .ok (.foreign actual)) :
    ∃ number, expected = some number ∧ ∀ index < layout.fields.length,
      layout.decodeField bytes expected index = .error (.corrupt (.generation number actual)) := by
  rcases decodeChecked_eq_foreign.mp h with ⟨body, after, hbody, hforeign⟩
  rcases expected_of_readForeign hforeign with ⟨number, rfl⟩
  refine ⟨number, rfl, ?_⟩
  intro index hindex
  have hfield : layout.fields[index]? = some layout.fields[index] := List.getElem?_eq_getElem hindex
  have hrun : (readBehind (some number) (layout.readField index layout.fields[index])).runOn body =
      .ok (.foreign actual, after) := Reading.runOn_eq_ok.mpr (readBehind_eq_foreign.mpr hforeign)
  simp [decodeField, hfield, hbody, hrun, currentOnly]

/-! ## From the fields to the whole -/

/-- Where each field can be read alone, all of them are read from one place on. -/
theorem exists_opens {values : List Value} (hpos : 0 < layout.fields.length)
    (hlength : values.length = layout.fields.length)
    (h : ∀ (index : Nat) (value : Value), values[index]? = some value →
      layout.decodeField bytes expected index = .ok value) :
    ∃ cursor, layout.Opens bytes expected cursor ∧
      ∀ (index : Nat) (field : Field) (value : Value), layout.fields[index]? = some field →
        values[index]? = some value → ∃ stop, layout.readField index field cursor = .ok value stop := by
  have hfield : layout.fields[0]? = some layout.fields[0] := List.getElem?_eq_getElem hpos
  have hfirst := h 0 _ (List.getElem?_eq_getElem (hlength.ge.trans_lt' hpos))
  rcases (decodeField_eq_ok hfield).mp hfirst with ⟨cursor, -, hopens, -⟩
  refine ⟨cursor, hopens, ?_⟩
  intro index field value hfield hvalue
  rcases (decodeField_eq_ok hfield).mp (h index value hvalue) with ⟨other, stop, hother, hread⟩
  rcases hopens.unique hother with rfl
  exact ⟨stop, hread⟩

/-- Where each field can be read alone, data can be read as a whole and has these values, unless there are bytes
left behind its last cell: then it is refused for these, and without them it has the values. -/
theorem decode_of_fields {values : List Value} (hpos : 0 < layout.fields.length)
    (hlength : values.length = layout.fields.length)
    (h : ∀ (index : Nat) (value : Value), values[index]? = some value →
      layout.decodeField bytes expected index = .ok value) :
    layout.decode bytes expected = .ok values ∨
      ∃ front left back, front ++ left ++ back = bytes ∧ back.length = layout.padding.after ∧ left ≠ [] ∧
        layout.decode (front ++ back) expected = .ok values ∧
        layout.decode bytes expected = .error (.corrupt (.afterData left.length)) := by
  rcases exists_opens hpos hlength h with ⟨cursor, hopens, hall⟩
  cases hbare : layout.bare? with
  | some field =>
    rcases bare?_eq_some hbare with ⟨hfields, -⟩
    rw [hfields] at hlength hall
    rcases List.length_eq_one_iff.mp hlength with ⟨value, rfl⟩
    rcases hall 0 field value rfl rfl with ⟨stop, hread⟩
    rw [readField, hbare] at hread
    refine Or.inl (decode_eq_ok.mpr ⟨cursor, stop, hopens, ?_⟩)
    rw [readValues, hbare]
    exact Reading.bind_eq_ok.mpr ⟨value, stop, hread, rfl⟩
  | none =>
    have hcells : ∃ after, Cells.read .compact layout.fields cursor = .ok values after := by
      apply Cells.read_of_fields hlength
      intro index field value hfield hvalue
      rcases hall index field value hfield hvalue with ⟨stop, hread⟩
      rw [readField, hbare] at hread
      rcases Reading.bind_eq_ok.mp hread with ⟨_, middle, hskip, hfound⟩
      exact ⟨middle, stop, hskip, hfound⟩
    rcases hcells with ⟨after, hread⟩
    by_cases hleft : after.unread = []
    · refine Or.inl (decode_eq_ok.mpr ⟨cursor, after, hopens, ?_⟩)
      rw [readValues_of_not_bare hbare]
      exact Reading.upToEnd_of_end hread hleft
    · rcases hopens.decode_without_left hbare hread with ⟨front, back, hbytes, hback, hwithout⟩
      exact Or.inr ⟨front, after.unread, back, hbytes, hback, hleft, hwithout,
        decode_of_left hbare hopens hread hleft⟩

end DataLayout

/-! ## Rows -/

namespace RecordFormat

variable {format : RecordFormat} {bytes : Bytes} {expected : Option Nat}

theorem exists_idxOf? {ordinals : List Nat} {ordinal : Nat} (h : ordinal ∈ ordinals) :
    ∃ index, ordinals.idxOf? ordinal = some index ∧ ordinals[index]? = some ordinal := by
  rcases Option.isSome_iff_exists.mp (List.isSome_idxOf?.mpr h) with ⟨index, hindex⟩
  rcases List.findIdx?_eq_some_iff_getElem.mp hindex with ⟨hlt, hsame, -⟩
  exact ⟨index, hindex, by rw [List.getElem?_eq_getElem hlt, eq_of_beq hsame]⟩

/-- What data puts into a row at an ordinal is what its reader finds of that ordinal alone. -/
theorem decodeDataField_of_decodeData {typeName : String} {declarations : List Declaration} {schema : Schema}
    {padding : RecordPadding} (hschema : Schema.build declarations = .ok schema)
    (hbuild : build typeName schema padding = .ok format) {σ : Type} {host host' : σ} {row row' : Row}
    (h : format.decodeData bytes expected none (host, row) = .ok () (host', row')) {ordinal : Nat}
    (hordinal : ordinal ∈ schema.data) :
    ∃ value, row'[ordinal]? = some value ∧ format.decodeDataField bytes ordinal expected = .ok value := by
  rcases Schema.mem_data_of_build hschema with ⟨hnodup, hmem⟩
  have hfields := length_data_of_build hbuild fun other hother => ((hmem other).mp hother).1
  obtain rfl : format.schema = schema := schema_of_build hbuild
  rcases decodeDataChecked_eq_current.mp (decodeData_eq_ok.mp h).2 with ⟨-, values, hchecked, hstored⟩
  have hdecode : format.data.decode bytes expected = .ok values := DataLayout.decode_of_current hchecked
  rcases DataLayout.decodeField_of_decode hdecode with ⟨hlength, hall⟩
  rcases exists_idxOf? hordinal with ⟨index, hindex, hat⟩
  have hlt : index < values.length := by
    rw [hlength, hfields]
    exact (List.getElem?_eq_some_iff.mp hat).1
  have hvalue : values[index]? = some values[index] := List.getElem?_eq_getElem hlt
  refine ⟨values[index], Row.getElem?_store? hstored hnodup hat hvalue, ?_⟩
  rw [decodeDataField, hindex]
  exact hall index _ hvalue

/-- An ordinal outside the data is refused. -/
theorem decodeDataField_of_not_mem {ordinal : Nat} (h : ordinal ∉ format.schema.data) :
    format.decodeDataField bytes ordinal expected = .error (.illegal (.notDataOrdinal ordinal)) := by
  rw [decodeDataField, List.idxOf?_eq_none_iff.mpr h]

end RecordFormat

/-! ## Fields and whole data -/

/-- Fields that are read alone and data that is read as a whole agree, whatever bytes they are read from.  Where
data can be read, each field has the value that it has in the whole.  Of data of another generation each field
is refused with the two generations.  Where each field can be read, data is read with these values, or refused
for nothing but bytes left behind its last cell.  There is no field past the last one.  Of a record, each data
property is read alone as what data puts at its ordinal, however the ordinals were pinned, and no other ordinal
is read. -/
theorem DataLayout.decodeField_agrees :
    (∀ (layout : DataLayout) (bytes : Bytes) (expected : Option Nat),
      (∀ values, layout.decode bytes expected = .ok values →
        values.length = layout.fields.length ∧
          ∀ (index : Nat) (value : Value), values[index]? = some value →
            layout.decodeField bytes expected index = .ok value) ∧
      (∀ actual, layout.decodeChecked bytes expected = .ok (.foreign actual) →
        ∃ number, expected = some number ∧ ∀ index < layout.fields.length,
          layout.decodeField bytes expected index = .error (.corrupt (.generation number actual))) ∧
      (∀ values : List Value, 0 < layout.fields.length → values.length = layout.fields.length →
        (∀ (index : Nat) (value : Value), values[index]? = some value →
          layout.decodeField bytes expected index = .ok value) →
        layout.decode bytes expected = .ok values ∨
          ∃ front left back, front ++ left ++ back = bytes ∧ back.length = layout.padding.after ∧ left ≠ [] ∧
            layout.decode (front ++ back) expected = .ok values ∧
            layout.decode bytes expected = .error (.corrupt (.afterData left.length))) ∧
      ∀ index, layout.fields.length ≤ index →
        layout.decodeField bytes expected index =
          .error (.illegal (.noDataField index layout.fields.length))) ∧
    ∀ (typeName : String) (declarations : List Declaration) (schema : Schema) (padding : RecordPadding)
      (format : RecordFormat), Schema.build declarations = .ok schema →
        RecordFormat.build typeName schema padding = .ok format →
          ∀ (bytes : Bytes) (expected : Option Nat),
            (∀ (σ : Type) (host host' : σ) (row row' : Row),
              format.decodeData bytes expected none (host, row) = .ok () (host', row') →
                ∀ ordinal ∈ schema.data, ∃ value, row'[ordinal]? = some value ∧
                  format.decodeDataField bytes ordinal expected = .ok value) ∧
            ∀ ordinal, ordinal ∉ schema.data →
              format.decodeDataField bytes ordinal expected =
                .error (.illegal (.notDataOrdinal ordinal)) := by
  constructor
  · intro layout bytes expected
    refine ⟨?_, ?_, ?_, ?_⟩
    · intro values hdecode
      exact decodeField_of_decode hdecode
    · intro actual hforeign
      exact decodeField_of_foreign hforeign
    · intro values hpos hlength hall
      exact decode_of_fields hpos hlength hall
    · intro index hindex
      rw [decodeField, List.getElem?_eq_none hindex]
  · intro typeName declarations schema padding format hschema hbuild bytes expected
    constructor
    · intro σ host host' row row' hdecode ordinal hordinal
      exact RecordFormat.decodeDataField_of_decodeData hschema hbuild hdecode hordinal
    · intro ordinal hordinal
      rw [← RecordFormat.schema_of_build hbuild] at hordinal
      exact RecordFormat.decodeDataField_of_not_mem hordinal

/-- Declarations of an identifier, a total and a flag, whose ordinals are pinned the other way around. -/
def backwards : List Declaration :=
  [⟨.key, some 2, (Field.plain "id" (.signed .w32) false .unspecified).property⟩,
    ⟨.data, some 1, (Field.plain "total" .bigint true .unspecified).property⟩,
    ⟨.data, some 0, (Field.plain "flag" .bool false .unspecified).property⟩]

/-- A field whose property is placed at an ordinal. -/
def Field.placedAt (field : Field) (ordinal : Nat) : Field :=
  ⟨{ field.property with ordinal := ordinal }, field.kind, field.storage_eq⟩

/-- The record of these declarations, with a byte reserved behind its data. -/
def backwardsRecord : RecordFormat :=
  let flag := (Field.plain "flag" .bool false .unspecified).placedAt 0
  let total := (Field.plain "total" .bigint true .unspecified).placedAt 1
  let id := (Field.plain "id" (.signed .w32) false .unspecified).placedAt 2
  { typeName := "Backwards"
    schema := ⟨[flag.property, total.property, id.property], [2], [0, 1]⟩
    padding := ⟨⟨0, 0⟩, ⟨0, 1⟩⟩
    key := ⟨[id], ⟨0, 0⟩⟩
    data := ⟨[flag, total], ⟨0, 1⟩⟩
    snapshot := ⟨[flag, total, id]⟩ }

/-- The total behind a flag is read alone, of data with two bytes too many as well; of another generation it is
not, and no property of the key is. -/
theorem decodeField_backwardsRecord :
    backwardsRecord.data.decodeField [5, 1, 1, 7, 0] (some 5) 1 = .ok (.of .bigint (7 : Int)) ∧
    (∃ number, some 6 = some number ∧ ∀ index < 2,
      backwardsRecord.data.decodeField [5, 1, 1, 7, 0] (some 6) index =
        .error (.corrupt (.generation number 5))) ∧
    (backwardsRecord.data.decode [5, 1, 1, 7, 9, 9, 0] (some 5) =
        .ok [.of .bool true, .of .bigint (7 : Int)] ∨
      ∃ front left back, front ++ left ++ back = [5, 1, 1, 7, 9, 9, 0] ∧ back.length = 1 ∧ left ≠ [] ∧
        backwardsRecord.data.decode (front ++ back) (some 5) = .ok [.of .bool true, .of .bigint (7 : Int)] ∧
        backwardsRecord.data.decode [5, 1, 1, 7, 9, 9, 0] (some 5) =
          .error (.corrupt (.afterData left.length))) ∧
    backwardsRecord.data.decodeField [5, 1, 1, 7, 0] (some 5) 2 = .error (.illegal (.noDataField 2 2)) ∧
    (∃ value, [Value.of .bool true, .of .bigint (7 : Int), .null][1]? = some value ∧
      backwardsRecord.decodeDataField [5, 1, 1, 7, 0] 1 (some 5) = .ok value) ∧
    backwardsRecord.decodeDataField [5, 1, 1, 7, 0] 2 (some 5) = .error (.illegal (.notDataOrdinal 2)) := by
  have hdecode : backwardsRecord.data.decode [5, 1, 1, 7, 0] (some 5) =
      .ok [.of .bool true, .of .bigint (7 : Int)] := by decide
  have hforeign : backwardsRecord.data.decodeChecked [5, 1, 1, 7, 0] (some 6) = .ok (.foreign 5) := by decide
  have hfields : ∀ (index : Nat) (value : Value),
      [Value.of .bool true, .of .bigint (7 : Int)][index]? = some value →
        backwardsRecord.data.decodeField [5, 1, 1, 7, 9, 9, 0] (some 5) index = .ok value := by
    intro index value hvalue
    match index with
    | 0 =>
      rcases Option.some.inj hvalue with rfl
      decide
    | 1 =>
      rcases Option.some.inj hvalue with rfl
      decide
    | index + 2 => cases hvalue
  have hschema : Schema.build backwards = .ok backwardsRecord.schema := rfl
  have hbuild : RecordFormat.build "Backwards" backwardsRecord.schema backwardsRecord.padding =
      .ok backwardsRecord := rfl
  have hrow : backwardsRecord.decodeData [5, 1, 1, 7, 0] (some 5) none ((), [.null, .null, .null]) =
      .ok () ((), [.of .bool true, .of .bigint (7 : Int), .null]) := rfl
  rcases DataLayout.decodeField_agrees with ⟨hlayout, hformat⟩
  rcases hlayout backwardsRecord.data [5, 1, 1, 7, 0] (some 5) with ⟨hwhole, -, -, hpast⟩
  rcases hlayout backwardsRecord.data [5, 1, 1, 7, 0] (some 6) with ⟨-, hother, -, -⟩
  rcases hlayout backwardsRecord.data [5, 1, 1, 7, 9, 9, 0] (some 5) with ⟨-, -, hleft, -⟩
  rcases hformat _ _ _ _ _ hschema hbuild [5, 1, 1, 7, 0] (some 5) with ⟨hrows, hkey⟩
  exact ⟨(hwhole _ hdecode).2 1 _ rfl, hother _ hforeign, hleft _ (by decide) rfl hfields, hpast 2 (by decide),
    hrows Unit () () _ _ hrow 1 (by decide), hkey 2 (by decide)⟩

end RecordBytes
