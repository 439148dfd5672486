import Mathlib
import RecordBytes.Proofs.Cursor.Spelling
import RecordBytes.Proofs.Format.Fitting
import RecordBytes.Proofs.Layout.Faults

/-!
# What decoding fails with

Without adapters, whatever the bytes are, a decoder that is called as it should be fails for damage alone.  The
damage names two generations when data of one generation was expected, is long enough for its own fields, and
begins with a complete tag of another one; it names none in every other failure.

Main results:

- `Generation.exists_read_iff`: a generation is read of the bytes that begin with a tag of it.
- `DataLayout.decodeChecked_eq_foreign_iff`: the data that is reported as foreign.
- `RecordFormat.failsWith_decodeKey`, `RecordFormat.fault_of_decodeData`, `RecordFormat.failsWith_decodeDataField`,
  `RecordFormat.failsWith_decodeSnapshot`: the faults of the decoders of rows, whatever adapters refuse with.
- `RecordFormat.faults_classified`: all decoders, for any format that can be built.
-/

namespace RecordBytes

open Outcome

/-! ## Generations -/

namespace Generation

/-- The complete tags of a generation: one byte below 128, or four bytes that are read without the top bit of the
first, which is set.  Any generation below 128 has two. -/
inductive Tag : Nat → Bytes → Prop
  | narrow {byte : UInt8} (h : byte < 0x80) : Tag byte.toNat [byte]
  | wide {first : UInt8} {rest : Bytes} (h : ¬ first < 0x80) (hlength : rest.length = 3) :
      Tag (BigEndian.toNat (first :: rest) - 0x8000_0000) (first :: rest)

/-- The number that a wide tag stands for is read in two parts. -/
theorem toNat_wide {first : UInt8} {rest : Bytes} (h : ¬ first < 0x80) (hlength : rest.length = 3) :
    BigEndian.toNat (first :: rest) - 0x8000_0000 =
      (first.toNat - 0x80) * 0x100_0000 + BigEndian.toNat rest := by
  have hfirst : 0x80 ≤ first.toNat := by
    rw [UInt8.lt_iff_toNat_lt] at h
    exact Nat.le_of_not_lt h
  rw [BigEndian.toNat, hlength]
  omega

/-- What is read of a generation is a complete tag of it. -/
theorem spells_read : Spells Tag read := by
  refine (Scan.spells_byte _).bind ?_
  rintro first _ rfl
  split
  · next hnarrow => exact Spells.pure (Tag.narrow hnarrow)
  · next hwide =>
    refine (Scan.spells_number 3 _).map ?_
    rintro _ moved ⟨hlength, rfl⟩
    rw [← toNat_wide hwide hlength]
    exact Tag.wide hwide hlength

/-- A complete tag is read as its generation, whatever is behind it. -/
theorem Tag.yields_read {generation : Nat} {tag : Bytes} (h : Tag generation tag) :
    Scan.Yields read tag generation := by
  cases h with
  | @narrow byte hnarrow =>
    apply (Scan.yields_byte "generation" byte).bind_pure
    rw [if_pos hnarrow]
  | @wide first rest hwide hlength =>
    apply (Scan.yields_byte "generation" first).bind
    rw [if_neg hwide]
    have hnumber : Scan.Yields (Scan.number 3 "generation") rest (BigEndian.toNat rest) :=
      (Scan.yields_take "generation" hlength).bind_pure rfl
    apply hnumber.bind_pure
    rw [toNat_wide hwide hlength]

/-- A generation is read of the bytes that begin with a complete tag of it. -/
theorem exists_read_iff {body : Bytes} {actual : Nat} :
    (∃ after, read (Cursor.start body 0) = .ok actual after) ↔ ∃ tag rest, Tag actual tag ∧ tag ++ rest = body := by
  constructor
  · rintro ⟨after, hread⟩
    rcases spells_read hread with ⟨moved, hunread, -, htag⟩
    have hmoved : moved.map (· ^^^ (Cursor.start body 0).mask) = moved := by simp [Cursor.start]
    rw [hmoved] at htag
    exact ⟨moved, after.unread, htag, hunread.symm⟩
  · rintro ⟨tag, rest, htag, rfl⟩
    exact ⟨_, htag.yields_read _ rest (by simp [Cursor.start, Cursor.shown])⟩

end Generation

/-! ## Foreign data -/

namespace DataLayout

variable {layout : DataLayout} {bytes : Bytes} {expected : Option Nat}

/-- Data has the least length of its fields and a byte more, and a complete tag of another generation than the
expected one stands at the start of what is between its padding. -/
structure Foreign (layout : DataLayout) (bytes : Bytes) (expected actual : Nat) : Prop where
  long : layout.leastSize + 1 ≤ bytes.length
  other : actual ≠ expected
  tag : ∃ front tag rest back, front.length = layout.padding.before ∧ back.length = layout.padding.after ∧
    Generation.Tag actual tag ∧ front ++ (tag ++ rest) ++ back = bytes

/-- A generation is foreign when it is read, and is not the expected one. -/
theorem readForeign_eq_some_iff {number actual : Nat} {cursor : Cursor} :
    (∃ after, readForeign (some number) cursor = .ok (some actual) after) ↔
      actual ≠ number ∧ ∃ after, Generation.read cursor = .ok actual after := by
  unfold readForeign
  simp only [Reading.bind_eq_ok, Reading.ofScan_eq_ok, Reading.pure_eq_ok]
  constructor
  · rintro ⟨after, found, middle, hread, hforeign, rfl⟩
    split at hforeign
    · cases hforeign
    · next hother =>
      rcases Option.some.inj hforeign with rfl
      exact ⟨hother, middle, hread⟩
  · rintro ⟨hother, after, hread⟩
    exact ⟨after, actual, after, hread, if_neg hother, rfl⟩

/-- Data is reported as foreign exactly when a generation is expected and the tag in it is one of another. -/
theorem decodeChecked_eq_foreign_iff {actual : Nat} :
    layout.decodeChecked bytes expected = .ok (.foreign actual) ↔
      ∃ number, expected = some number ∧ layout.Foreign bytes number actual := by
  rw [decodeChecked_eq_foreign]
  constructor
  · rintro ⟨body, after, hbody, hforeign⟩
    rcases expected_of_readForeign hforeign with ⟨number, rfl⟩
    rcases readForeign_eq_some_iff.mp ⟨after, hforeign⟩ with ⟨hother, hread⟩
    rcases Generation.exists_read_iff.mp hread with ⟨tag, rest, htag, rfl⟩
    rcases body_eq_ok.mp hbody with ⟨hlong, hstrip⟩
    rcases Padding.strip?_eq_some.mp hstrip with ⟨front, back, hfront, hback, hbytes⟩
    exact ⟨number, rfl, hlong, hother, front, tag, rest, back, hfront, hback, htag, hbytes⟩
  · rintro ⟨number, rfl, hlong, hother, front, tag, rest, back, hfront, hback, htag, hbytes⟩
    have hread := Generation.exists_read_iff.mpr ⟨tag, rest, htag, rfl⟩
    rcases readForeign_eq_some_iff.mpr ⟨hother, hread⟩ with ⟨after, hforeign⟩
    exact ⟨tag ++ rest, after,
      body_eq_ok.mpr ⟨hlong, Padding.strip?_eq_some.mpr ⟨front, back, hfront, hback, hbytes⟩⟩, hforeign⟩

/-- The faults of a decoder of data are damage, and name the expected and another generation exactly when the
data carries a tag of the other one. -/
structure Classified (layout : DataLayout) (bytes : Bytes) (expected : Option Nat) (Fails : Fault → Prop) :
    Prop where
  corrupt : ∀ fault, Fails fault → fault.isCorrupt = true
  generations_iff : ∀ wanted actual : Nat,
    (∃ fault, Fails fault ∧ fault.generations = some (wanted, actual)) ↔
      expected = some wanted ∧ layout.Foreign bytes wanted actual

/-- A decoder that fails with plain damage or a mismatch, and with every mismatch there is, fails as it should. -/
theorem classified_of_mismatched {Fails : Fault → Prop}
    (h : ∀ fault, Fails fault → fault.IsPlain ∨ layout.Mismatched bytes expected fault)
    (hmismatched : ∀ fault, layout.Mismatched bytes expected fault → Fails fault) :
    layout.Classified bytes expected Fails where
  corrupt := by
    intro fault hfault
    rcases h fault hfault with hplain | ⟨actual, -, rfl⟩
    · exact hplain.1
    · rfl
  generations_iff := by
    intro wanted actual
    constructor
    · rintro ⟨fault, hfault, hgenerations⟩
      rcases h fault hfault with hplain | ⟨found, hchecked, rfl⟩
      · cases hplain.2.symm.trans hgenerations
      · rcases decodeChecked_eq_foreign_iff.mp hchecked with ⟨number, rfl, hforeign⟩
        cases hgenerations
        exact ⟨rfl, hforeign⟩
    · rintro ⟨rfl, hforeign⟩
      have hchecked := decodeChecked_eq_foreign_iff.mpr ⟨wanted, rfl, hforeign⟩
      exact ⟨.corrupt (.generation wanted actual), hmismatched _ ⟨actual, hchecked, rfl⟩, rfl⟩

end DataLayout

/-! ## Decoders of rows -/

namespace RecordFormat

variable {format : RecordFormat} {row : Row} {Blames : Fault → Prop}

section

variable (hplain : ∀ fault, Fault.IsPlain fault → Blames fault) (hfields : FieldsOf format.schema format)
  (hadapters : ∀ field ∈ format.snapshot.fields, field.AdaptsWithin Blames)
  (hrow : row.length = format.schema.size)

include hplain hfields hadapters hrow

/-- The decoder of a key fails with plain damage or what an adapter refuses with. -/
theorem failsWith_decodeKey (hkey : ∀ ordinal ∈ format.schema.key, ordinal < format.schema.size) {bounds : Bounds}
    {span : Span} (hspan : format.schema.KeySpan bounds span) (bytes : Bytes) :
    FailsWith Blames (format.decodeKey bytes bounds row) := by
  have hlength := hfields.key.length_eq
  have hresolve := (KeyLayout.resolve_eq_ok_iff hlength.symm).mpr hspan
  have hstop := KeyLayout.stop_le_of_resolve hresolve
  have hordinals : span.of? format.schema.key = some (span.slice format.schema.key) :=
    Span.of?_eq_some.mpr ⟨hlength ▸ hstop, rfl⟩
  unfold decodeKey
  rw [checkRow, if_pos hrow, hresolve, lift_refusal_ok, ok_bind, lift_refusal_ok, ok_bind, hordinals]
  have hkeyAdapters := fun field hfield => hadapters field (mem_of_forall₂ hfields.key field hfield)
  refine (KeyLayout.failsWith_decodeSpan hplain hkeyAdapters hstop bytes).bind fun values _ => ?_
  have hin : ∀ ordinal ∈ span.slice format.schema.key, ordinal < row.length := by
    intro ordinal hordinal
    rw [hrow]
    exact hkey ordinal (List.mem_of_mem_take (List.mem_of_mem_drop hordinal))
  rcases Row.exists_store? hin values with ⟨stored, hstored⟩
  simp only [inBounds, ok_bind, hstored]
  exact FailsWith.of_ok rfl

/-- The decoder that reports foreign data fails with plain damage or what an adapter refuses with. -/
theorem failsWith_decodeDataChecked (hdata : ∀ ordinal ∈ format.schema.data, ordinal < format.schema.size)
    (bytes : Bytes) (expected : Option Nat) : FailsWith Blames (format.decodeDataChecked bytes expected row) := by
  unfold decodeDataChecked
  rw [checkRow, if_pos hrow, lift_refusal_ok, ok_bind]
  refine (DataLayout.failsWith_decodeChecked hplain
    (fun field hfield => hadapters field (mem_of_forall₂ hfields.data field hfield)) bytes expected).bind ?_
  intro outcome _
  cases outcome with
  | foreign actual => exact FailsWith.of_ok rfl
  | current values =>
    rcases Row.exists_store? (hrow ▸ hdata) values with ⟨stored, hstored⟩
    simp only [hstored, inBounds, ok_bind]
    exact FailsWith.of_ok rfl

/-- The decoder of data fails with plain damage, what an adapter refuses with, a mismatch of generations, or what
the handler of foreign data fails with. -/
theorem fault_of_decodeData (hdata : ∀ ordinal ∈ format.schema.data, ordinal < format.schema.size) {bytes : Bytes}
    {expected : Option Nat} {σ : Type} {handler : Option (ForeignHandler σ)} {host : σ} {fault : Fault}
    {after : σ × Row} (h : format.decodeData bytes expected handler (host, row) = .error fault after) :
    Blames fault ∨ format.data.Mismatched bytes expected fault ∨
      ∃ handle actual, handler = some handle ∧ handle actual bytes (host, row) = .error fault after := by
  cases hrun : format.decodeDataChecked bytes expected row with
  | error fault' =>
    simp only [decodeData, hrun] at h
    cases h
    exact Or.inl (failsWith_decodeDataChecked hplain hfields hadapters hrow hdata bytes expected fault hrun)
  | ok outcome =>
    cases outcome with
    | current stored =>
      simp only [decodeData, hrun] at h
      cases h
    | foreign actual =>
      simp only [decodeData, hrun] at h
      cases handler with
      | some handle => exact Or.inr (Or.inr ⟨handle, actual, rfl, h⟩)
      | none =>
        cases h
        exact Or.inr (Or.inl ⟨actual, (decodeDataChecked_eq_foreign.mp hrun).2, rfl⟩)

omit hrow

/-- The decoder of one property outside the key fails with plain damage, what an adapter refuses with, or a
mismatch of generations. -/
theorem failsWith_decodeDataField {ordinal : Nat} (hordinal : ordinal ∈ format.schema.data) (bytes : Bytes)
    (expected : Option Nat) :
    FailsWith (fun fault => Blames fault ∨ format.data.Mismatched bytes expected fault)
      (format.decodeDataField bytes ordinal expected) := by
  rcases exists_idxOf? hordinal with ⟨index, hindex, hat⟩
  have hlt : index < format.data.fields.length := by
    rw [← hfields.data.length_eq]
    exact (List.getElem?_eq_some_iff.mp hat).1
  rw [decodeDataField, hindex]
  exact DataLayout.failsWith_decodeField hplain
    (fun field hfield => hadapters field (mem_of_forall₂ hfields.data field hfield)) hlt bytes expected

include hrow

/-- The decoder of a snapshot fails with plain damage or what an adapter refuses with. -/
theorem failsWith_decodeSnapshot (bytes : Bytes) (slots : Slots) :
    FailsWith Blames (format.decodeSnapshot bytes row slots) := by
  have hcount : row.length = format.snapshot.fields.length := hrow.trans hfields.length_eq.symm
  unfold decodeSnapshot
  rw [checkRow, if_pos hrow, lift_refusal_ok, ok_bind]
  exact SnapshotLayout.failsWith_decodeInto hplain hadapters bytes hcount slots

end

/-- For every format of a schema without adapters, every row of the right length and every byte string, a decoder
that is called with bounds that name a span, or with the ordinal of a property outside the key, fails for damage
alone: no failure is a refusal, an unsupported type or a stretch outside a buffer.  The damage of a key, of a part
of a key and of a snapshot names no generations.  That of data and of one property of data names two exactly when
the first of them was expected, the data has the least length of its fields and a byte more, and a complete tag of
the second one, which is another, stands at the start of what is between its padding. -/
theorem faults_classified {typeName : String} {declarations : List Declaration} {schema : Schema}
    {padding : RecordPadding} (hschema : Schema.build declarations = .ok schema)
    (hbuild : build typeName schema padding = .ok format)
    (hplain : ∀ property ∈ schema.properties, property.adapter = none) (hrow : row.length = schema.size)
    (bytes : Bytes) :
    (∀ bounds span, schema.KeySpan bounds span →
      FailsWith Fault.IsPlain (format.decodeKey bytes bounds row) ∧
      FailsWith Fault.IsPlain (format.key.decodePart bytes bounds)) ∧
    (∀ slots, FailsWith Fault.IsPlain (format.decodeSnapshot bytes row slots)) ∧
    ∀ expected : Option Nat,
      (∀ (σ : Type) (host : σ), format.data.Classified bytes expected fun fault =>
        ∃ after, format.decodeData bytes expected none (host, row) = .error fault after) ∧
      ∀ ordinal < schema.size, ordinal ∉ schema.key → format.data.Classified bytes expected fun fault =>
        format.decodeDataField bytes ordinal expected = .error fault := by
  have hkey := (Schema.key_of_build hschema).2
  have hmem := (Schema.mem_data_of_build hschema).2
  have hdata := Schema.data_lt_of_build hschema
  have hfields := fieldsOf_of_schema hschema hbuild
  obtain rfl : format.schema = schema := schema_of_build hbuild
  have hadapters : ∀ field ∈ format.snapshot.fields, field.AdaptsWithin Fault.IsPlain :=
    fun _ hfield => Field.adaptsWithin_of_plain (hplain _ (hfields.property_mem hfield))
  have hself : ∀ fault, Fault.IsPlain fault → Fault.IsPlain fault := fun _ h => h
  refine ⟨?_, ?_, ?_⟩
  · intro bounds span hspan
    have hresolve := (KeyLayout.resolve_eq_ok_iff hfields.key.length_eq.symm).mpr hspan
    exact ⟨failsWith_decodeKey hself hfields hadapters hrow hkey hspan bytes,
      KeyLayout.failsWith_decodePart hself
        (fun field hfield => hadapters field (mem_of_forall₂ hfields.key field hfield)) hresolve bytes⟩
  · exact failsWith_decodeSnapshot hself hfields hadapters hrow bytes
  · intro expected
    constructor
    · intro σ host
      apply DataLayout.classified_of_mismatched
      · rintro fault ⟨after, hfault⟩
        rcases fault_of_decodeData hself hfields hadapters hrow hdata hfault with
          hblamed | hmismatched | ⟨_, _, hnone, _⟩
        · exact Or.inl hblamed
        · exact Or.inr hmismatched
        · cases hnone
      · rintro _ ⟨actual, hchecked, rfl⟩
        have hforeign := decodeDataChecked_eq_foreign.mpr ⟨hrow, hchecked⟩
        exact ⟨(host, row), by simp only [decodeData, hforeign]⟩
    · intro ordinal hordinal hnotKey
      have hmember := (hmem ordinal).mpr ⟨hordinal, hnotKey⟩
      apply DataLayout.classified_of_mismatched
      · exact failsWith_decodeDataField hself hfields hadapters hmember bytes expected
      · rintro _ ⟨actual, hchecked, rfl⟩
        rcases DataLayout.decodeField_of_foreign hchecked with ⟨number, rfl, hall⟩
        rcases exists_idxOf? hmember with ⟨index, hindex, hat⟩
        rw [decodeDataField, hindex]
        apply hall
        rw [← hfields.data.length_eq]
        exact (List.getElem?_eq_some_iff.mp hat).1

/-- Five bytes that begin with generation 5, spelled wider than it has to be, are data of another generation where
6 is expected.  Where none is expected, or read as a key or as a snapshot, the same bytes are damage that names no
generations. -/
theorem faults_classified_backwards :
    (∃ fault, (∃ after, backwardsRecord.decodeData [0x80, 0, 0, 5, 9] (some 6) none ((), [.null, .null, .null]) =
        .error fault after) ∧ fault.generations = some (6, 5)) ∧
    (∀ fault, backwardsRecord.decodeDataField [0x80, 0, 0, 5, 9] 1 none = .error fault →
      fault.isCorrupt = true ∧ fault.generations = none) ∧
    FailsWith Fault.IsPlain (backwardsRecord.decodeKey [0x80, 0, 0, 5, 9] .all [.null, .null, .null]) ∧
    FailsWith Fault.IsPlain
      (backwardsRecord.decodeSnapshot [0x80, 0, 0, 5, 9] [.null, .null, .null] (Slots.empty 3)) := by
  have hschema : Schema.build backwards = .ok backwardsRecord.schema := rfl
  have hbuild : build "Backwards" backwardsRecord.schema backwardsRecord.padding = .ok backwardsRecord := rfl
  have hplain : ∀ property ∈ backwardsRecord.schema.properties, property.adapter = none := by
    simp [backwardsRecord, Field.placedAt, Field.plain]
  have hrow : [Value.null, .null, .null].length = backwardsRecord.schema.size := rfl
  have htag : Generation.Tag (BigEndian.toNat [0x80, 0, 0, 5] - 0x8000_0000) [0x80, 0, 0, 5] :=
    Generation.Tag.wide (by decide) rfl
  have hnumber : BigEndian.toNat [0x80, 0, 0, 5] - 0x8000_0000 = 5 := by decide
  have hforeign : backwardsRecord.data.Foreign [0x80, 0, 0, 5, 9] 6 5 :=
    ⟨by decide, by decide, [], [0x80, 0, 0, 5], [], [9], rfl, rfl, hnumber ▸ htag, rfl⟩
  rcases faults_classified hschema hbuild hplain hrow [0x80, 0, 0, 5, 9] with ⟨hkeys, hsnapshots, hdatas⟩
  refine ⟨?_, ?_, (hkeys .all (Span.full 1) rfl).1, hsnapshots (Slots.empty 3)⟩
  · exact (((hdatas (some 6)).1 Unit ()).generations_iff 6 5).mpr ⟨rfl, hforeign⟩
  · have hfield := (hdatas none).2 1 (by decide) (by decide)
    intro fault hfault
    refine ⟨hfield.corrupt fault hfault, ?_⟩
    cases hgenerations : fault.generations with
    | none => rfl
    | some pair => cases ((hfield.generations_iff pair.1 pair.2).mp ⟨fault, hfault, hgenerations⟩).1

end RecordFormat
end RecordBytes
