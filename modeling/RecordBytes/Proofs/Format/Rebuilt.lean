import Mathlib
import RecordBytes.Proofs.Data.RoundTrip
import RecordBytes.Proofs.Data.Fields
import RecordBytes.Proofs.Format.InPlace
import RecordBytes.Proofs.Key.RoundTrip

/-!
# Rows rebuilt from their encodings

A schema may pin the ordinals of its properties in any order, with key and data between each other.  The key and
the data of a row still go back to the ordinals that they came from: each reader changes its own ordinals and no
others, and both together rebuild the row, whichever comes first and whatever the row held before.

Main results:

- `Row.eq_of_holds`: a row is what it holds at all of its ordinals.
- `RecordFormat.decodeKey_eq_ok`, `RecordFormat.decodeKey_frame`: what a key changes of a row.
- `RecordFormat.rows_rebuilt`: what the readers change, and what they make of a row's own encodings.
-/

namespace RecordBytes

open Outcome

/-! ## Values at ordinals -/

namespace Row

/-- The row has the values at the ordinals. -/
def Holds (row : Row) (ordinals : List Nat) (values : List Value) : Prop :=
  ∀ (index ordinal : Nat) (value : Value), ordinals[index]? = some ordinal → values[index]? = some value →
    row[ordinal]? = some value

variable {row stored : Row} {ordinals others : List Nat} {values given : List Value}

theorem holds_of_select? (h : Row.select? row ordinals = some values) : row.Holds ordinals values := by
  intro index ordinal value hordinal hvalue
  rw [getElem?_select? h, hordinal] at hvalue
  exact hvalue

theorem holds_of_store? (h : Row.store? row (ordinals.zip values) = some stored) (hnodup : ordinals.Nodup) :
    stored.Holds ordinals values := by
  intro index ordinal value hordinal hvalue
  exact getElem?_store? h hnodup hordinal hvalue

/-- Storing elsewhere leaves what the row holds. -/
theorem Holds.store? (h : row.Holds others given) (hstored : Row.store? row (ordinals.zip values) = some stored)
    (hdisjoint : ∀ ordinal ∈ others, ordinal ∉ ordinals) : stored.Holds others given := by
  intro index ordinal value hordinal hvalue
  rw [getElem?_store?_of_not_mem hstored (hdisjoint ordinal (List.mem_of_getElem? hordinal))]
  exact h index ordinal value hordinal hvalue

/-- What a row holds at one of the ordinals. -/
theorem Holds.exists_index (h : row.Holds ordinals values) (hlength : values.length = ordinals.length)
    {ordinal : Nat} (hordinal : ordinal ∈ ordinals) :
    ∃ (index : Nat) (value : Value), ordinals[index]? = some ordinal ∧ values[index]? = some value ∧
      row[ordinal]? = some value := by
  rcases List.getElem?_of_mem hordinal with ⟨index, hindex⟩
  have hlt : index < values.length := by
    rw [hlength]
    exact (List.getElem?_eq_some_iff.mp hindex).1
  have hvalue : values[index]? = some values[index] := List.getElem?_eq_getElem hlt
  exact ⟨index, _, hindex, hvalue, h index ordinal _ hindex hvalue⟩

/-- A row is what it holds at all of its ordinals. -/
theorem eq_of_holds {left right : Row} (hlength : left.length = right.length)
    (hall : ∀ ordinal < left.length, ordinal ∈ ordinals ∨ ordinal ∈ others)
    (hvalues : values.length = ordinals.length) (hgiven : given.length = others.length)
    (hleft : left.Holds ordinals values) (hleftOthers : left.Holds others given)
    (hright : right.Holds ordinals values) (hrightOthers : right.Holds others given) : left = right := by
  apply List.ext_getElem?
  intro ordinal
  by_cases hordinal : ordinal < left.length
  · rcases hall ordinal hordinal with hmem | hmem
    · rcases hleft.exists_index hvalues hmem with ⟨index, value, hindex, hvalue, hat⟩
      rw [hat, hright index ordinal value hindex hvalue]
    · rcases hleftOthers.exists_index hgiven hmem with ⟨index, value, hindex, hvalue, hat⟩
      rw [hat, hrightOthers index ordinal value hindex hvalue]
  · rw [List.getElem?_eq_none (Nat.le_of_not_lt hordinal),
      List.getElem?_eq_none (hlength ▸ Nat.le_of_not_lt hordinal)]

end Row

/-! ## Keys and data without adapters -/

/-- Without adapters, what is stored are the values themselves. -/
theorem Cells.eq_of_stored {fields : List Field} (hplain : ∀ field ∈ fields, field.property.adapter = none)
    {values stored : List Value} (hlength : values.length = fields.length)
    (h : Cells.stored fields values = .ok stored) : stored = values := by
  induction fields generalizing values stored with
  | nil =>
    rcases List.length_eq_zero_iff.mp hlength with rfl
    exact (Except.ok.inj h).symm
  | cons field fields ih =>
    rcases List.exists_cons_of_length_eq_add_one hlength with ⟨value, values, rfl⟩
    rcases stored_cons.mp h with ⟨first, rest, hfirst, hrest, rfl⟩
    have hothers := ih (fun next hnext => hplain next (List.mem_cons_of_mem _ hnext)) (Nat.succ.inj hlength) hrest
    rw [hothers, Field.eq_of_stored (hplain field List.mem_cons_self) hfirst]

/-- A key without adapters is read back as its values, up to NaNs and equal decimals. -/
theorem KeyLayout.decode_encode_of_plain {layout : KeyLayout}
    (hplain : ∀ field ∈ layout.fields, field.property.adapter = none) {values : List Value}
    (hcount : values.length = layout.fields.length) {key : Bytes} (h : layout.encode values .all = .ok key) :
    layout.decode key .all = .ok (values.map Value.restored) ∧
      List.Forall₂ Value.Restores values (values.map Value.restored) := by
  have hspan := resolve_all layout
  rcases written_of_encode hcount h with ⟨stored, hstored, hlength, hwritten⟩
  rcases Cells.eq_of_stored hplain hcount hstored with rfl
  have hslice : (Span.head layout.fields.length layout.fields.length (Nat.le_refl _)).slice layout.fields =
      layout.fields := by rw [Span.slice_head, List.take_length]
  have hsliceValues : (Span.head layout.fields.length layout.fields.length (Nat.le_refl _)).slice stored =
      stored := by rw [Span.slice_head, ← hcount, List.take_length]
  rcases decodeSpan_of_written hspan (by rw [hslice, hsliceValues, hstored]) (Nat.le_refl _)
    (by rw [hslice, hlength]) hwritten (Padding.overwritten_refl _ key) with ⟨hdecode, hrestores, -⟩
  rw [hslice, Cells.logical_of_plain hplain (by simpa using hlength)] at hdecode
  exact ⟨(decode_of_resolve hspan key).trans hdecode, hrestores⟩

/-- Data without adapters is read back as its values. -/
theorem DataLayout.decodeChecked_encode_of_plain {layout : DataLayout}
    (hplain : ∀ field ∈ layout.fields, field.property.adapter = none) {values : List Value}
    {generation : Option Nat} {data : Bytes} (h : layout.encode values generation = .ok data) :
    layout.decodeChecked data generation = .ok (.current values) := by
  rcases encode_eq_ok.mp h with ⟨hcount, hmax, stored, hstored, cells, hwritten, rfl⟩
  rcases Cells.eq_of_stored hplain hcount hstored with rfl
  rw [decodeChecked_written hstored hcount hmax hwritten (Padding.overwritten_refl _ _),
    Cells.logical_of_plain hplain hcount]
  rfl

/-! ## Rows of a format -/

namespace RecordFormat

variable {format : RecordFormat}

/-- A row takes the values of a key, or of the part that bounds name, at the key ordinals of the span. -/
theorem decodeKey_eq_ok {bytes : Bytes} {bounds : Bounds} {row stored : Row} :
    format.decodeKey bytes bounds row = .ok stored ↔
      row.length = format.schema.size ∧ ∃ span values ordinals, format.key.resolve bounds = .ok span ∧
        format.key.decodeSpan bytes span = .ok values ∧ span.of? format.schema.key = some ordinals ∧
          Row.store? row (ordinals.zip values) = some stored := by
  unfold decodeKey
  simp only [bind_eq_ok, lift_refusal_eq_ok, checkRow_eq_ok, inBounds_eq_ok, exists_const]
  constructor
  · rintro ⟨hlength, span, hspan, values, hvalues, ordinals, hordinals, hstored⟩
    exact ⟨hlength, span, values, ordinals, hspan, hvalues, hordinals, hstored⟩
  · rintro ⟨hlength, span, values, ordinals, hspan, hvalues, hordinals, hstored⟩
    exact ⟨hlength, span, hspan, values, hvalues, ordinals, hordinals, hstored⟩

/-- A whole key is read, and then its values are stored at the key ordinals of a row. -/
theorem decodeKey_all (hrow : row.length = format.schema.size)
    (hfields : format.key.fields.length = format.schema.key.length) (bytes : Bytes) :
    format.decodeKey bytes .all row =
      (format.key.decode bytes .all >>= fun values => inBounds (Row.store? row (format.schema.key.zip values))) := by
  have hspan := KeyLayout.resolve_all format.key
  have hordinals : (Span.head format.key.fields.length format.key.fields.length (Nat.le_refl _)).of?
      format.schema.key = some format.schema.key := by
    rw [Span.of?_eq_some, Span.slice_head, hfields, List.take_length]
    exact ⟨Nat.le_refl _, rfl⟩
  have hcheck : format.checkRow row = .ok () := checkRow_eq_ok.mpr hrow
  rw [KeyLayout.decode_of_resolve hspan, decodeKey, hcheck, hspan]
  simp only [lift_refusal_ok, ok_bind, hordinals, inBounds]

/-- A key, or a part of a key, changes a row at the key ordinals of its span only. -/
theorem decodeKey_frame {bytes : Bytes} {bounds : Bounds} {row stored : Row}
    (h : format.decodeKey bytes bounds row = .ok stored) :
    stored.length = row.length ∧ ∃ span, format.key.resolve bounds = .ok span ∧
      ∀ ordinal, ordinal ∉ span.slice format.schema.key → stored[ordinal]? = row[ordinal]? := by
  rcases decodeKey_eq_ok.mp h with ⟨-, span, values, ordinals, hspan, -, hordinals, hstored⟩
  rcases Span.of?_eq_some.mp hordinals with ⟨-, rfl⟩
  exact ⟨Row.length_store? hstored, span, hspan, fun ordinal hother =>
    Row.getElem?_store?_of_not_mem hstored hother⟩

/-- What becomes of a row and its host when data is put into the row: data that is read changes the row at the
data ordinals only, foreign data is the handler's to deal with, and everything else leaves both alone. -/
theorem decodeData_cases {σ : Type} (bytes : Bytes) (expected : Option Nat)
    (handler : Option (ForeignHandler σ)) (host : σ) (row : Row) :
    (∃ actual handle, handler = some handle ∧ format.data.decodeChecked bytes expected = .ok (.foreign actual) ∧
      format.decodeData bytes expected handler (host, row) = handle actual bytes (host, row)) ∨
    (∃ stored, format.decodeData bytes expected handler (host, row) = .ok () (host, stored) ∧
      stored.length = row.length ∧ ∀ ordinal, ordinal ∉ format.schema.data → stored[ordinal]? = row[ordinal]?) ∨
    ∃ fault, format.decodeData bytes expected handler (host, row) = .error fault (host, row) := by
  unfold decodeData
  dsimp only
  cases hchecked : format.decodeDataChecked bytes expected row with
  | error fault => exact Or.inr (Or.inr ⟨fault, rfl⟩)
  | ok outcome =>
    cases outcome with
    | current stored =>
      rcases decodeDataChecked_eq_current.mp hchecked with ⟨-, values, -, hstored⟩
      exact Or.inr (Or.inl ⟨stored, rfl, Row.length_store? hstored, fun ordinal hother =>
        Row.getElem?_store?_of_not_mem hstored hother⟩)
    | foreign actual =>
      cases handler with
      | none => exact Or.inr (Or.inr ⟨_, rfl⟩)
      | some handle =>
        exact Or.inl ⟨actual, handle, rfl, (decodeDataChecked_eq_foreign.mp hchecked).2, rfl⟩

/-! ## Rebuilt rows -/

/-- The ordinals of a schema: those of the key and those of the data are distinct, and together they are all. -/
structure Shared (schema : Schema) : Prop where
  nodup_key : schema.key.Nodup
  nodup_data : schema.data.Nodup
  key_lt : ∀ ordinal ∈ schema.key, ordinal < schema.size
  mem_data : ∀ ordinal, ordinal ∈ schema.data ↔ ordinal < schema.size ∧ ordinal ∉ schema.key

theorem shared_of_build {declarations : List Declaration} {schema : Schema}
    (h : Schema.build declarations = .ok schema) : Shared schema := by
  rcases Schema.key_of_build h with ⟨hnodupKey, hkey⟩
  rcases Schema.mem_data_of_build h with ⟨hnodupData, hdata⟩
  exact ⟨hnodupKey, hnodupData, hkey, hdata⟩

/-- What a row's own encodings make of any row: the key ordinals get what is read back of the key values, and the
data ordinals the data values. -/
structure Rebuilt (format : RecordFormat) (keyValues dataValues : List Value) (row : Row) : Prop where
  length : row.length = format.schema.size
  key : row.Holds format.schema.key (keyValues.map Value.restored)
  data : row.Holds format.schema.data dataValues

/-- The values of the key and then those of the data, stored in any row, rebuild it. -/
theorem rebuilt_of_key_first {keyValues dataValues : List Value} {start middle found : Row}
    (hshared : Shared format.schema) (hstart : start.length = format.schema.size)
    (hkey : Row.store? start (format.schema.key.zip (keyValues.map Value.restored)) = some middle)
    (hdata : Row.store? middle (format.schema.data.zip dataValues) = some found) :
    Rebuilt format keyValues dataValues found := by
  refine ⟨(Row.length_store? hdata).trans ((Row.length_store? hkey).trans hstart), ?_, ?_⟩
  · apply (Row.holds_of_store? hkey hshared.nodup_key).store? hdata
    intro ordinal hordinal hmem
    exact ((hshared.mem_data ordinal).mp hmem).2 hordinal
  · exact Row.holds_of_store? hdata hshared.nodup_data

/-- The values of the data and then those of the key, stored in any row, rebuild it as well. -/
theorem rebuilt_of_data_first {keyValues dataValues : List Value} {start middle found : Row}
    (hshared : Shared format.schema) (hstart : start.length = format.schema.size)
    (hdata : Row.store? start (format.schema.data.zip dataValues) = some middle)
    (hkey : Row.store? middle (format.schema.key.zip (keyValues.map Value.restored)) = some found) :
    Rebuilt format keyValues dataValues found := by
  refine ⟨(Row.length_store? hkey).trans ((Row.length_store? hdata).trans hstart), ?_, ?_⟩
  · exact Row.holds_of_store? hkey hshared.nodup_key
  · apply (Row.holds_of_store? hdata hshared.nodup_data).store? hkey
    intro ordinal hordinal hmem
    exact ((hshared.mem_data ordinal).mp hordinal).2 hmem

/-- There is one rebuilt row. -/
theorem Rebuilt.unique {keyValues dataValues : List Value} {left right : Row}
    (hshared : Shared format.schema) (hkey : keyValues.length = format.schema.key.length)
    (hdata : dataValues.length = format.schema.data.length)
    (hleft : Rebuilt format keyValues dataValues left) (hright : Rebuilt format keyValues dataValues right) :
    left = right := by
  refine Row.eq_of_holds (hleft.length.trans hright.length.symm) ?_ (by rw [List.length_map, hkey]) hdata hleft.key
    hleft.data hright.key hright.data
  intro ordinal hordinal
  rw [hleft.length] at hordinal
  by_cases hmem : ordinal ∈ format.schema.key
  · exact Or.inl hmem
  · exact Or.inr ((hshared.mem_data ordinal).mpr ⟨hordinal, hmem⟩)

/-- A key that can be read is put into any row of the right length. -/
theorem exists_decodeKey (hshared : Shared format.schema)
    (hfields : format.key.fields.length = format.schema.key.length) {key : Bytes} {values : List Value}
    (hdecode : format.key.decode key .all = .ok values) {row : Row} (hrow : row.length = format.schema.size) :
    ∃ stored, format.decodeKey key .all row = .ok stored ∧
      Row.store? row (format.schema.key.zip values) = some stored := by
  have hin : ∀ ordinal ∈ format.schema.key, ordinal < row.length := by
    rw [hrow]
    exact hshared.key_lt
  rcases Row.exists_store? hin values with ⟨stored, hstored⟩
  refine ⟨stored, ?_, hstored⟩
  rw [decodeKey_all hrow hfields, hdecode, ok_bind, inBounds_eq_ok]
  exact hstored

/-- Data that can be read is put into any row of the right length. -/
theorem exists_decodeData (hshared : Shared format.schema) {data : Bytes} {expected : Option Nat}
    {values : List Value} (hchecked : format.data.decodeChecked data expected = .ok (.current values)) {row : Row}
    (hrow : row.length = format.schema.size) :
    ∃ stored, Row.store? row (format.schema.data.zip values) = some stored ∧
      ∀ (σ : Type) (host : σ) (handler : Option (ForeignHandler σ)),
        format.decodeData data expected handler (host, row) = .ok () (host, stored) := by
  have hin : ∀ ordinal ∈ format.schema.data, ordinal < row.length := by
    intro ordinal hordinal
    rw [hrow]
    exact ((hshared.mem_data ordinal).mp hordinal).1
  rcases Row.exists_store? hin values with ⟨stored, hstored⟩
  refine ⟨stored, hstored, ?_⟩
  intro σ host handler
  have hcurrent := decodeDataChecked_eq_current.mpr ⟨hrow, values, hchecked, hstored⟩
  simp only [decodeData, hcurrent]

/-- Both readers together rebuild a row, whichever comes first and whatever the row held before. -/
theorem exists_rebuilt (hshared : Shared format.schema)
    (hkeyFields : format.key.fields.length = format.schema.key.length) {keyValues dataValues : List Value}
    (hkeyLength : keyValues.length = format.schema.key.length)
    (hdataLength : dataValues.length = format.schema.data.length) {key data : Bytes} {generation : Option Nat}
    (hkey : format.key.decode key .all = .ok (keyValues.map Value.restored))
    (hdata : format.data.decodeChecked data generation = .ok (.current dataValues)) :
    ∃ found, Rebuilt format keyValues dataValues found ∧
      ∀ (σ : Type) (host : σ) (handler : Option (ForeignHandler σ)) (start : Row),
        start.length = format.schema.size →
          (∃ middle, format.decodeKey key .all start = .ok middle ∧
            format.decodeData data generation handler (host, middle) = .ok () (host, found)) ∧
          ∃ middle, format.decodeData data generation handler (host, start) = .ok () (host, middle) ∧
            format.decodeKey key .all middle = .ok found := by
  have hkeyFirst : ∀ start : Row, start.length = format.schema.size →
      ∃ middle found, format.decodeKey key .all start = .ok middle ∧ Rebuilt format keyValues dataValues found ∧
        ∀ (σ : Type) (host : σ) (handler : Option (ForeignHandler σ)),
          format.decodeData data generation handler (host, middle) = .ok () (host, found) := by
    intro start hstart
    rcases exists_decodeKey hshared hkeyFields hkey hstart with ⟨middle, hmiddle, hkeyStored⟩
    have hlength := (Row.length_store? hkeyStored).trans hstart
    rcases exists_decodeData hshared hdata hlength with ⟨found, hdataStored, hfound⟩
    exact ⟨middle, found, hmiddle, rebuilt_of_key_first hshared hstart hkeyStored hdataStored, hfound⟩
  have hdataFirst : ∀ start : Row, start.length = format.schema.size →
      ∃ middle found, Rebuilt format keyValues dataValues found ∧ format.decodeKey key .all middle = .ok found ∧
        ∀ (σ : Type) (host : σ) (handler : Option (ForeignHandler σ)),
          format.decodeData data generation handler (host, start) = .ok () (host, middle) := by
    intro start hstart
    rcases exists_decodeData hshared hdata hstart with ⟨middle, hdataStored, hmiddle⟩
    have hlength := (Row.length_store? hdataStored).trans hstart
    rcases exists_decodeKey hshared hkeyFields hkey hlength with ⟨found, hfound, hkeyStored⟩
    exact ⟨middle, found, rebuilt_of_data_first hshared hstart hdataStored hkeyStored, hfound, hmiddle⟩
  -- There is one rebuilt row, so the one that comes of a blank row is the one that comes of any other.
  rcases hkeyFirst (List.replicate format.schema.size .null) List.length_replicate with
    ⟨-, found, -, hfound, -⟩
  refine ⟨found, hfound, ?_⟩
  intro σ host handler start hstart
  constructor
  · rcases hkeyFirst start hstart with ⟨middle, other, hmiddle, hother, hrun⟩
    rcases hfound.unique hshared hkeyLength hdataLength hother with rfl
    exact ⟨middle, hmiddle, hrun σ host handler⟩
  · rcases hdataFirst start hstart with ⟨middle, other, hother, hkeyRun, hrun⟩
    rcases hfound.unique hshared hkeyLength hdataLength hother with rfl
    exact ⟨middle, hrun σ host handler, hkeyRun⟩

/-- A rebuilt row has the values of the original, but for NaNs and equal decimals in the key. -/
theorem Rebuilt.getElem? {keyValues dataValues : List Value} {original found : Row}
    (h : Rebuilt format keyValues dataValues found) (hshared : Shared format.schema)
    (hlength : original.length = format.schema.size)
    (hkeyLength : keyValues.length = format.schema.key.length)
    (hdataLength : dataValues.length = format.schema.data.length)
    (hkey : original.Holds format.schema.key keyValues) (hdata : original.Holds format.schema.data dataValues)
    (hrestores : List.Forall₂ Value.Restores keyValues (keyValues.map Value.restored)) {ordinal : Nat}
    {value : Value} (hvalue : original[ordinal]? = some value) :
    ∃ back, found[ordinal]? = some back ∧ (ordinal ∈ format.schema.key → Value.Restores value back) ∧
      (ordinal ∉ format.schema.key → back = value) := by
  by_cases hmem : ordinal ∈ format.schema.key
  · rcases hkey.exists_index hkeyLength hmem with ⟨index, given, hindex, hgiven, hat⟩
    rcases Option.some.inj (hvalue.symm.trans hat) with rfl
    have hback : (keyValues.map Value.restored)[index]? = some value.restored := by simp [hgiven]
    refine ⟨value.restored, h.key index ordinal _ hindex hback, ?_, fun hother => absurd hmem hother⟩
    intro _
    exact List.forall₂_same.mp (List.forall₂_map_right_iff.mp hrestores) value (List.mem_of_getElem? hgiven)
  · have hlt : ordinal < format.schema.size := by
      rw [← hlength]
      exact (List.getElem?_eq_some_iff.mp hvalue).1
    have hdataMem := (hshared.mem_data ordinal).mpr ⟨hlt, hmem⟩
    rcases hdata.exists_index hdataLength hdataMem with ⟨index, given, hindex, hgiven, hat⟩
    rcases Option.some.inj (hvalue.symm.trans hat) with rfl
    exact ⟨value, h.data index ordinal value hindex hgiven, fun hother => absurd hother hmem, fun _ => rfl⟩

/-- Each reader of a format that is built of a schema changes its own ordinals of a row and no others, or leaves
the row as it is, though it works in place.  A key, or a part of a key, changes the key ordinals of its span; data
that is read changes none of the key, and foreign data is the handler's to deal with; a reader that fails has
changed nothing.  Without adapters, the key and the data of a row rebuild it in any row of the right length, in
either order: every value comes back, up to NaNs and equal decimals in the key. -/
theorem rows_rebuilt {typeName : String} {declarations : List Declaration} {schema : Schema}
    {padding : RecordPadding} (hschema : Schema.build declarations = .ok schema)
    (hbuild : build typeName schema padding = .ok format) :
    (∀ (bytes : Bytes) (bounds : Bounds) (row : Row),
      format.loadKey bytes bounds row = allOrNothing row (format.decodeKey bytes bounds row) ∧
      (∀ found, format.loadKey bytes bounds row = .ok () found →
        found.length = row.length ∧ ∃ span, format.key.resolve bounds = .ok span ∧
          ∀ ordinal, ordinal ∉ span.slice schema.key → found[ordinal]? = row[ordinal]?) ∧
      ∀ fault after, format.loadKey bytes bounds row = .error fault after → after = row) ∧
    (∀ (bytes : Bytes) (expected : Option Nat) (σ : Type) (handler : Option (ForeignHandler σ)) (host : σ)
      (row : Row),
      format.loadData bytes expected handler (host, row) = format.decodeData bytes expected handler (host, row) ∧
      ((∃ actual handle, handler = some handle ∧
          format.data.decodeChecked bytes expected = .ok (.foreign actual) ∧
          format.loadData bytes expected handler (host, row) = handle actual bytes (host, row)) ∨
        (∃ found, format.loadData bytes expected handler (host, row) = .ok () (host, found) ∧
          found.length = row.length ∧ ∀ ordinal ∈ schema.key, found[ordinal]? = row[ordinal]?) ∨
        ∃ fault, format.loadData bytes expected handler (host, row) = .error fault (host, row))) ∧
    (∀ (bytes : Bytes) (row : Row) (slots : Slots),
      format.loadSnapshot bytes (row, slots) =
        allOrNothing (row, slots) (format.decodeSnapshot bytes row slots) ∧
      ∀ fault after, format.loadSnapshot bytes (row, slots) = .error fault after → after = (row, slots)) ∧
    ((∀ property ∈ schema.properties, property.adapter = none) →
      ∀ (original : Row) (key data : Bytes) (generation : Option Nat),
        format.encodeKey original .all = .ok key → format.encodeData original generation = .ok data →
          ∃ found : Row, found.length = original.length ∧
            (∀ (ordinal : Nat) (value : Value), original[ordinal]? = some value →
              ∃ back, found[ordinal]? = some back ∧ (ordinal ∈ schema.key → Value.Restores value back) ∧
                (ordinal ∉ schema.key → back = value)) ∧
            ∀ (σ : Type) (host : σ) (handler : Option (ForeignHandler σ)) (start : Row),
              start.length = original.length →
                (∃ middle, format.loadKey key .all start = .ok () middle ∧
                  format.loadData data generation handler (host, middle) = .ok () (host, found)) ∧
                ∃ middle, format.loadData data generation handler (host, start) = .ok () (host, middle) ∧
                  format.loadKey key .all middle = .ok () found) := by
  have hshared := shared_of_build hschema
  have hdataLt : ∀ ordinal ∈ schema.data, ordinal < schema.size :=
    fun ordinal hordinal => ((hshared.mem_data ordinal).mp hordinal).1
  have hfields := fieldsOf_of_build hbuild hshared.key_lt hdataLt
  obtain rfl : format.schema = schema := schema_of_build hbuild
  have hkeyFields := hfields.key.length_eq.symm
  have hloadKey := loadKey_eq hshared.key_lt hkeyFields
  refine ⟨?_, ?_, ?_, ?_⟩
  · intro bytes bounds row
    refine ⟨hloadKey bytes bounds row, ?_, ?_⟩
    · intro found hfound
      rw [hloadKey, allOrNothing_eq_ok] at hfound
      exact decodeKey_frame hfound
    · intro fault after hafter
      rw [hloadKey] at hafter
      exact eq_of_allOrNothing_error hafter
  · intro bytes expected σ handler host row
    rw [loadData_eq hdataLt]
    refine ⟨rfl, ?_⟩
    rcases format.decodeData_cases bytes expected handler host row with hforeign | ⟨found, hfound, hlength, hframe⟩ |
      hfault
    · exact Or.inl hforeign
    · refine Or.inr (Or.inl ⟨found, hfound, hlength, ?_⟩)
      intro ordinal hordinal
      exact hframe ordinal fun hmem => ((hshared.mem_data ordinal).mp hmem).2 hordinal
    · exact Or.inr (Or.inr hfault)
  · intro bytes row slots
    refine ⟨loadSnapshot_eq bytes row slots, ?_⟩
    intro fault after hafter
    rw [loadSnapshot_eq] at hafter
    exact eq_of_allOrNothing_error hafter
  · intro hplain original key data generation hkey hdata
    rcases encodeKey_eq_ok.mp hkey with ⟨hlength, keyValues, hkeyValues, hkeyEncode⟩
    rcases encodeData_eq_ok.mp hdata with ⟨-, dataValues, hdataValues, hdataEncode⟩
    have hkeyLength := Row.length_select? hkeyValues
    have hdataLength := Row.length_select? hdataValues
    rcases KeyLayout.decode_encode_of_plain (hfields.plain hplain hfields.key) (hkeyLength.trans hkeyFields.symm)
      hkeyEncode with ⟨hkeyDecode, hrestores⟩
    have hdataDecode := DataLayout.decodeChecked_encode_of_plain (hfields.plain hplain hfields.data) hdataEncode
    rcases exists_rebuilt hshared hkeyFields hkeyLength hdataLength hkeyDecode hdataDecode with
      ⟨found, hfound, hruns⟩
    refine ⟨found, hfound.length.trans hlength.symm, ?_, ?_⟩
    · intro ordinal value hvalue
      exact hfound.getElem? hshared hlength hkeyLength hdataLength (Row.holds_of_select? hkeyValues)
        (Row.holds_of_select? hdataValues) hrestores hvalue
    · intro σ host handler start hstart
      rcases hruns σ host handler start (hstart.trans hlength) with
        ⟨⟨middle, hmiddle, hfirst⟩, other, hother, hsecond⟩
      simp only [hloadKey, allOrNothing_eq_ok, loadData_eq hdataLt]
      exact ⟨⟨middle, hmiddle, hfirst⟩, other, hother, hsecond⟩

/-- Declarations of a label, a measured number, a flag and a rank, with the ordinals of the key pinned between
those of the data. -/
def interleaved : List Declaration :=
  [⟨.data, some 2, (Field.plain "label" .text true .unspecified).property⟩,
    ⟨.key, some 3, (Field.plain "reading" (.float .double) false .descending).property⟩,
    ⟨.data, some 0, (Field.plain "flag" .bool false .unspecified).property⟩,
    ⟨.key, some 1, (Field.plain "rank" (.signed .w16) false .unspecified).property⟩]

/-- The record of these declarations, with a byte reserved before its key. -/
def interleavedRecord : RecordFormat :=
  let flag := (Field.plain "flag" .bool false .unspecified).placedAt 0
  let rank := (Field.plain "rank" (.signed .w16) false .unspecified).placedAt 1
  let label := (Field.plain "label" .text true .unspecified).placedAt 2
  let reading := (Field.plain "reading" (.float .double) false .descending).placedAt 3
  { typeName := "Interleaved"
    schema := ⟨[flag.property, rank.property, label.property, reading.property], [3, 1], [0, 2]⟩
    padding := ⟨⟨1, 0⟩, ⟨0, 0⟩⟩
    key := ⟨[reading, rank], ⟨1, 0⟩⟩
    data := ⟨[flag, label], ⟨0, 0⟩⟩
    snapshot := ⟨[flag, rank, label, reading]⟩ }

/-- A row with a NaN in its key is rebuilt in any other row, and the last part of its key changes the rank alone. -/
theorem rows_rebuilt_interleaved :
    (∃ found : Row, found.length = 4 ∧ found[0]? = some (.of .bool true) ∧ found[2]? = some .null ∧
      (∃ back, found[3]? = some back ∧ Value.Restores (.of (.float .double) 0x7FF8000000000001#64) back) ∧
      ∀ start : Row, start.length = 4 →
        ∃ middle,
          interleavedRecord.loadKey [0, 0x00, 0x07, 0xFF, 0xFF, 0xFF, 0xFF, 0xFF, 0xFF, 0x80, 0x07] .all start =
            .ok () middle ∧
          interleavedRecord.loadData [5, 1, 0xFF] (some 5) none ((), middle) = .ok () ((), found)) ∧
    (∃ found : Row,
      interleavedRecord.loadKey [0x80, 0x07] ⟨.included 1, .unbounded⟩ [.null, .null, .null, .of .bool true] =
        .ok () found ∧ found[3]? = some (.of .bool true)) ∧
    ∀ fault after,
      interleavedRecord.loadSnapshot [0x05, 1] ([.null, .null, .null, .null], Slots.empty 4) = .error fault after →
        after = ([.null, .null, .null, .null], Slots.empty 4) := by
  have hschema : Schema.build interleaved = .ok interleavedRecord.schema := rfl
  have hbuild : build "Interleaved" interleavedRecord.schema interleavedRecord.padding = .ok interleavedRecord :=
    rfl
  have hplain : ∀ property ∈ interleavedRecord.schema.properties, property.adapter = none := by
    simp [interleavedRecord, Field.placedAt, Field.plain]
  have hkey : interleavedRecord.encodeKey
      [.of .bool true, .of (.signed .w16) 7, .null, .of (.float .double) 0x7FF8000000000001#64] .all =
      .ok [0, 0x00, 0x07, 0xFF, 0xFF, 0xFF, 0xFF, 0xFF, 0xFF, 0x80, 0x07] := by decide
  have hdata : interleavedRecord.encodeData
      [.of .bool true, .of (.signed .w16) 7, .null, .of (.float .double) 0x7FF8000000000001#64] (some 5) =
      .ok [5, 1, 0xFF] := by decide
  have hpart : ∃ found,
      interleavedRecord.loadKey [0x80, 0x07] ⟨.included 1, .unbounded⟩ [.null, .null, .null, .of .bool true] =
        .ok () found := ⟨_, rfl⟩
  rcases rows_rebuilt hschema hbuild with ⟨hkeys, -, hsnapshots, hrows⟩
  refine ⟨?_, ?_, ?_⟩
  · rcases hrows hplain _ _ _ _ hkey hdata with ⟨found, hlength, hvalues, hruns⟩
    rcases hvalues 0 _ rfl with ⟨flag, hflag, -, hflagSame⟩
    rcases hvalues 2 _ rfl with ⟨label, hlabel, -, hlabelSame⟩
    rcases hvalues 3 _ rfl with ⟨reading, hreading, hrestores, -⟩
    rcases hflagSame (by decide) with rfl
    rcases hlabelSame (by decide) with rfl
    refine ⟨found, hlength, hflag, hlabel, ⟨reading, hreading, hrestores (by decide)⟩, ?_⟩
    intro start hstart
    exact (hruns Unit () none start hstart).1
  · rcases hpart with ⟨found, hfound⟩
    rcases (hkeys _ _ _).2.1 found hfound with ⟨-, span, hspan, hframe⟩
    have hresolve : interleavedRecord.key.resolve ⟨.included 1, .unbounded⟩ =
        .ok ⟨1, 2, 2, by decide, by decide⟩ := rfl
    rcases Except.ok.inj (hresolve.symm.trans hspan) with rfl
    exact ⟨found, hfound, (hframe 3 (by decide)).trans rfl⟩
  · exact (hsnapshots _ _ _).2

end RecordFormat
end RecordBytes
