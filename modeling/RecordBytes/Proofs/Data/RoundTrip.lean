import Mathlib
import RecordBytes.Proofs.Cursor.Behind
import RecordBytes.Proofs.Data.Generation
import RecordBytes.Proofs.Layout.Reading

/-!
# Reading data back

Data is read back whatever its padding holds: a reader that expects the generation of the data, or that of
data without one expects none, finds exactly what was stored, through the adapters of the fields.  A reader
that expects another generation finds the one of the data and nothing else.  The generation can also be
looked up without reading on; the bytes that are then behind it do not matter.

Main results:

- `DataLayout.decodeChecked_written`: what is read back of the expected generation.
- `DataLayout.peekGeneration_of_decodeChecked`: the generation that is looked up is the one that readers
  find.
- `DataLayout.decode_behind_generation`: reading back, behind the generation.
-/

namespace RecordBytes

open Outcome

/-! ## Generations -/

/-- A generation takes one byte at least, and is read without a look at what is behind it. -/
theorem Generation.confined_read : Scan.Confined 1 Generation.read := by
  apply (Scan.confined_byte _).bind_free
  intro first
  split
  · exact Confined.pure _
  · exact ((Scan.confined_number 3 _).bind_free fun rest => Confined.pure _).weaken (Nat.zero_le _)

namespace DataLayout

variable {layout : DataLayout}

/-- A reader finds the generation that it expects and goes on behind it. -/
theorem readForeign_tag {generation : Option Nat}
    (hmax : ∀ number, generation = some number → number ≤ Generation.max) (position : Nat) (cells : Bytes) :
    Reading.EndsWith (readForeign generation ⟨position, Generation.tag generation ++ cells, 0⟩)
      (.ok none) (position + (Generation.tag generation).length) cells := by
  cases generation with
  | none => exact ⟨0, rfl⟩
  | some number =>
    have hshown : (⟨position, Generation.encode number ++ cells, 0⟩ : Cursor).shown =
        Generation.encode number ++ cells := by simp [Cursor.shown]
    have hread := Generation.yields_read (hmax number rfl) _ cells hshown
    exact ⟨0, by simp [readForeign, Reading.ofScan, Generation.tag, Bind.bind, EStateM.bind, hread, pure,
      EStateM.pure, Cursor.advance]⟩

/-! ## Values -/

/-- A stored byte array is read back from its bare form through the adapter of its field. -/
theorem readBare_encode {field : Field} (hkind : field.kind = .bytes) {stored : Value}
    (h : field.Storable stored) (position : Nat) (mask : UInt8) :
    Reading.EndsWith (readBare field ⟨position, Bare.encode field.nullable stored, mask⟩)
      (field.logical stored) position (Bare.encode field.nullable stored) := by
  have hdecode := Bare.decode_encode hkind h .barePresenceByte
  have hread : readBare field ⟨position, Bare.encode field.nullable stored, mask⟩ =
      Reading.ofExcept (field.logical stored) ⟨position, Bare.encode field.nullable stored, mask⟩ := by
    simp only [readBare, hdecode]
  rw [hread]
  exact Reading.endsWith_ofExcept _ _ _ _

/-- The values are read back up to the end of the body, through the adapters of the fields. -/
theorem readValues_written {values stored : List Value}
    (hstored : Cells.stored layout.fields values = .ok stored)
    (hlength : stored.length = layout.fields.length)
    {cells : Bytes} (hwritten : Written layout stored cells) (position : Nat) :
    ∃ position' unread, ∀ mask,
      Reading.EndsWith (layout.readValues ⟨position, cells, mask⟩) (Cells.logical layout.fields stored)
        position' unread := by
  -- A bare byte array is taken without moving the cursor, so the two shapes stop at different places.
  unfold readValues
  cases hwritten with
  | @bare field hbare =>
    rcases bare?_eq_some hbare with ⟨hfields, hkind⟩
    rw [hfields] at hstored hlength ⊢
    rcases Cells.storable_of_stored hstored hlength with ⟨value, rfl, hstorable⟩
    rw [hbare, List.flatMap_singleton]
    refine ⟨position, Bare.encode field.nullable value, ?_⟩
    intro mask
    apply (readBare_encode hkind hstorable position mask).bind
    intro found mask
    exact ⟨mask, rfl⟩
  | cells hbare hrun =>
    rw [hbare]
    refine ⟨position + cells.length, [], ?_⟩
    intro mask
    have hread := Cells.read_encode hlength hrun position [] mask
    rw [List.append_nil, Form.restored_compact, List.map_id] at hread
    rw [← bind_pure (Cells.logical layout.fields stored)]
    apply hread.bind
    intro found mask
    exact ⟨mask, rfl⟩

/-! ## Data -/

/-- Data is read back by a reader that expects its generation, whatever its padding holds. -/
theorem decodeChecked_written {values stored : List Value} {generation : Option Nat} {cells framed : Bytes}
    (hstored : Cells.stored layout.fields values = .ok stored)
    (hlength : stored.length = layout.fields.length)
    (hmax : ∀ number, generation = some number → number ≤ Generation.max)
    (hwritten : Written layout stored cells)
    (hframed : layout.padding.Overwritten (layout.padding.wrap (Generation.tag generation ++ cells)) framed) :
    layout.decodeChecked framed generation = Outcome.current <$> Cells.logical layout.fields stored := by
  have hbody := body_of_overwritten hlength hwritten hframed (fun h => h)
  rcases readValues_written hstored hlength hwritten (0 + (Generation.tag generation).length) with
    ⟨position, unread, hvalues⟩
  have hread : Reading.EndsWith (readBehind generation layout.readValues
      (Cursor.start (Generation.tag generation ++ cells) 0))
      (Outcome.current <$> Cells.logical layout.fields stored) position unread := by
    apply (readForeign_tag hmax 0 cells).bind_ok
    intro mask
    rw [map_eq_pure_bind]
    apply (hvalues mask).bind
    intro found mask
    exact ⟨mask, rfl⟩
  rw [decodeChecked, hbody, ok_bind]
  exact hread.outcome_eq

/-- The values of data are those of the outcome, where it is of the expected generation. -/
theorem decode_of_current {bytes : Bytes} {expected : Option Nat} {values : Except Fault (List Value)}
    (h : layout.decodeChecked bytes expected = Outcome.current <$> values) :
    layout.decode bytes expected = values := by
  rw [decode, h]
  cases values with
  | ok found => rfl
  | error fault => rfl

/-! ## Data of another generation -/

/-- No value is read of data of another generation: the mismatch is reported instead. -/
theorem decode_of_foreign {bytes : Bytes} {expected actual : Nat}
    (h : layout.decodeChecked bytes (some expected) = .ok (.foreign actual)) :
    layout.decode bytes (some expected) = .error (.corrupt (.generation expected actual)) := by
  rw [decode, h]
  rfl

/-- No field is read alone of data of another generation: the mismatch is reported instead. -/
theorem decodeField_of_body {expected actual index : Nat} {bytes cells : Bytes}
    (hmax : actual ≤ Generation.max) (hforeign : actual ≠ expected)
    (hbody : layout.body bytes (some expected) = .ok (Generation.encode actual ++ cells))
    (hindex : index < layout.fields.length) :
    layout.decodeField bytes (some expected) index = .error (.corrupt (.generation expected actual)) := by
  have hfield : layout.fields[index]? = some layout.fields[index] := List.getElem?_eq_getElem hindex
  rcases readBehind_foreign (layout.readField index layout.fields[index]) cells hmax hforeign with
    ⟨cursor, hrun⟩
  simp [decodeField, hfield, hbody, hrun, currentOnly]

/-- A handler is given data of another generation, with the row as it was. -/
theorem decodeData_of_foreign {format : RecordFormat} {bytes : Bytes} {expected actual : Nat}
    (h : format.data.decodeChecked bytes (some expected) = .ok (.foreign actual)) {row : Row}
    (hrow : row.length = format.schema.size) {σ : Type} (host : σ)
    (handle : RecordFormat.ForeignHandler σ) :
    format.decodeData bytes (some expected) (some handle) (host, row) = handle actual bytes (host, row) := by
  have hchecked : format.decodeDataChecked bytes (some expected) row = .ok (.foreign actual) := by
    simp [RecordFormat.decodeDataChecked, RecordFormat.checkRow, hrow, h]
  simp only [RecordFormat.decodeData, hchecked]

/-! ## The generation alone -/

/-- The generation that a reader has found, where it has come to an outcome. -/
def generationOf {α : Type} (expected : Nat) : Outcome α → Nat
  | .current _ => expected
  | .foreign actual => actual

/-- A reader that comes to an outcome has read the generation first. -/
theorem read_of_readBehind {α : Type} {inner : Reading α} {expected : Nat} {body : Bytes}
    {outcome : Outcome α} {cursor : Cursor}
    (h : (readBehind (some expected) inner).runOn body = .ok (outcome, cursor)) :
    ∃ after, Generation.read (Cursor.start body 0) = .ok (generationOf expected outcome) after := by
  rcases Reading.bind_eq_ok.mp (Reading.runOn_eq_ok.mp h) with ⟨foreign, after, hforeign, hrest⟩
  rcases Reading.bind_eq_ok.mp hforeign with ⟨actual, after, hread, hfound⟩
  rcases Reading.pure_eq_ok.mp hfound with ⟨rfl, rfl⟩
  refine ⟨after, ?_⟩
  rw [Reading.ofScan_eq_ok] at hread
  by_cases hsame : actual = expected
  · rw [if_pos hsame] at hrest
    rcases Reading.bind_eq_ok.mp hrest with ⟨found, last, -, hcurrent⟩
    rcases Reading.pure_eq_ok.mp hcurrent with ⟨rfl, -⟩
    rw [hread, hsame, generationOf]
  · rw [if_neg hsame] at hrest
    rcases Reading.pure_eq_ok.mp hrest with ⟨rfl, -⟩
    rw [hread, generationOf]

/-- The generation that is looked up is the one between the padding, whatever is behind it. -/
theorem peekGeneration_of_strip? {bytes body : Bytes} (hstrip : layout.padding.strip? bytes = some body)
    {actual : Nat} {after : Cursor} (hread : Generation.read (Cursor.start body 0) = .ok actual after) :
    layout.peekGeneration bytes = .ok actual := by
  rcases Padding.drop_of_strip? hstrip with ⟨behind, hdrop⟩
  have hlonger : Generation.read (Cursor.start (body ++ behind) 0) = .ok actual _ :=
    Generation.confined_read.ahead behind hread
  simp [peekGeneration, Scan.runOn, hdrop, hlonger]

/-- The generation that is looked up is the one that a reader finds. -/
theorem peekGeneration_of_decodeChecked {bytes : Bytes} {expected : Nat} {outcome : Outcome (List Value)}
    (h : layout.decodeChecked bytes (some expected) = .ok outcome) :
    layout.peekGeneration bytes = .ok (generationOf expected outcome) := by
  unfold decodeChecked at h
  simp only [bind_eq_ok, pure_eq_ok] at h
  rcases h with ⟨body, hbody, ⟨outcome, cursor⟩, hrun, rfl⟩
  rcases read_of_readBehind hrun with ⟨after, hread⟩
  exact peekGeneration_of_strip? (body_eq_ok.mp hbody).2 hread

/-- The generation of data is looked up whatever its padding holds. -/
theorem peekGeneration_of_overwritten {actual : Nat} (hmax : actual ≤ Generation.max) {cells framed : Bytes}
    (hframed : layout.padding.Overwritten (layout.padding.wrap (Generation.encode actual ++ cells)) framed) :
    layout.peekGeneration framed = .ok actual := by
  have hshown : (Cursor.start (Generation.encode actual ++ cells) 0).shown =
      Generation.encode actual ++ cells := by simp [Cursor.start, Cursor.shown]
  exact peekGeneration_of_strip? (Padding.strip?_of_overwritten hframed)
    (Generation.yields_read hmax _ cells hshown)

/-! ## Behind the generation -/

/-- Data is read back behind its generation, whatever its padding holds.  A reader that expects the
generation finds what was stored, through the adapters of the fields, and fails only where an adapter
refuses.  A reader that expects another one finds only the generation that a look at the front finds, and
hands it on with all bytes and the untouched row.  Of any other bytes, too, a reader and a look at the front
find one generation. -/
theorem decode_behind_generation (layout : DataLayout) :
    (∀ (values : List Value) (generation : Option Nat) (bytes framed : Bytes),
      layout.encode values generation = .ok bytes → layout.padding.Overwritten bytes framed →
        (∃ stored, Cells.stored layout.fields values = .ok stored ∧
          stored.length = layout.fields.length ∧
          layout.decode framed generation = Cells.logical layout.fields stored) ∧
        ∀ actual, generation = some actual →
          layout.peekGeneration framed = .ok actual ∧
          ∀ expected, actual ≠ expected →
            layout.decodeChecked framed (some expected) = .ok (.foreign actual) ∧
            layout.decode framed (some expected) = .error (.corrupt (.generation expected actual)) ∧
            (∀ index < layout.fields.length,
              layout.decodeField framed (some expected) index =
                .error (.corrupt (.generation expected actual))) ∧
            ∀ (format : RecordFormat) (row : Row), format.data = layout →
              row.length = format.schema.size →
                ∀ (σ : Type) (host : σ) (handle : RecordFormat.ForeignHandler σ),
                  format.decodeData framed (some expected) (some handle) (host, row) =
                    handle actual framed (host, row)) ∧
    ∀ (bytes : Bytes) (expected : Nat),
      (∀ values, layout.decodeChecked bytes (some expected) = .ok (.current values) →
        layout.peekGeneration bytes = .ok expected) ∧
      ∀ actual, layout.decodeChecked bytes (some expected) = .ok (.foreign actual) →
        layout.peekGeneration bytes = .ok actual := by
  constructor
  · intro values generation bytes framed hencode hframed
    rcases encode_eq_ok.mp hencode with ⟨hcount, hmax, stored, hstored, cells, hwritten, rfl⟩
    have hlength : stored.length = layout.fields.length := by
      rw [Cells.length_stored hstored, hcount, Nat.min_self]
    refine ⟨⟨stored, hstored, hlength, ?_⟩, ?_⟩
    · exact decode_of_current (decodeChecked_written hstored hlength hmax hwritten hframed)
    · rintro actual rfl
      have hactual := hmax actual rfl
      refine ⟨peekGeneration_of_overwritten hactual hframed, ?_⟩
      intro expected hforeign
      have hbody : layout.body framed (some expected) = .ok (Generation.encode actual ++ cells) :=
        body_of_overwritten hlength hwritten hframed (fun _ => rfl)
      have hchecked := decodeChecked_of_body hactual hforeign hbody
      refine ⟨hchecked, decode_of_foreign hchecked, ?_, ?_⟩
      · intro index hindex
        exact decodeField_of_body hactual hforeign hbody hindex
      · rintro format row rfl hrow σ host handle
        exact decodeData_of_foreign hchecked hrow host handle
  · intro bytes expected
    constructor
    · intro values hcurrent
      exact peekGeneration_of_decodeChecked hcurrent
    · intro actual hforeign
      exact peekGeneration_of_decodeChecked hforeign

/-- Data of a measured number and of a price that may be missing, with padding. -/
def readingAndPrice : DataLayout :=
  ⟨[Field.plain "reading" (.float .double) false .unspecified,
    Field.plain "price" .decimal true .unspecified], ⟨2, 1⟩⟩

/-- Data of two marks that may be missing, with a byte behind. -/
def twoMarks : DataLayout :=
  ⟨[Field.marked true .unspecified, Field.marked true .unspecified], ⟨0, 1⟩⟩

/-- A NaN and a price with its scale are read back, bit by bit, behind a generation of four bytes, and a mark, which
the adapter makes of its letter, behind one of one byte. -/
theorem decode_readingAndPrice :
    (readingAndPrice.decode
        [7, 7, 128, 0, 1, 44, 127, 248, 0, 0, 0, 0, 0, 1, 2, 251, 50, 0, 0, 0, 2, 7] (some 300) =
      .ok [.of (.float .double) 0x7FF8000000000001#64, .of .decimal ⟨-1230, 2⟩] ∧
      readingAndPrice.peekGeneration
        [7, 7, 128, 0, 1, 44, 127, 248, 0, 0, 0, 0, 0, 1, 2, 251, 50, 0, 0, 0, 2, 7] = .ok 300 ∧
      readingAndPrice.decodeChecked
        [7, 7, 128, 0, 1, 44, 127, 248, 0, 0, 0, 0, 0, 1, 2, 251, 50, 0, 0, 0, 2, 7]
        (some 0xFFFF_FFFF) = .ok (.foreign 300)) ∧
    twoMarks.decode [5, 1, 0, 0, 0, 121, 0, 7] (some 5) = .ok [.of .bool true, .null] := by
  constructor
  · have hencode : readingAndPrice.encode
        [.of (.float .double) 0x7FF8000000000001#64, .of .decimal ⟨-1230, 2⟩] (some 300) =
        .ok [0, 0, 128, 0, 1, 44, 127, 248, 0, 0, 0, 0, 0, 1, 2, 251, 50, 0, 0, 0, 2, 0] := by decide
    have hframed : readingAndPrice.padding.Overwritten
        [0, 0, 128, 0, 1, 44, 127, 248, 0, 0, 0, 0, 0, 1, 2, 251, 50, 0, 0, 0, 2, 0]
        [7, 7, 128, 0, 1, 44, 127, 248, 0, 0, 0, 0, 0, 1, 2, 251, 50, 0, 0, 0, 2, 7] :=
      @Padding.overwritten_of_append readingAndPrice.padding [7, 7] [7] rfl rfl
        [128, 0, 1, 44, 127, 248, 0, 0, 0, 0, 0, 1, 2, 251, 50, 0, 0, 0, 2]
    rcases (decode_behind_generation readingAndPrice).1 _ _ _ _ hencode hframed with
      ⟨⟨stored, hstored, -, hdecode⟩, hgeneration⟩
    rcases hgeneration 300 rfl with ⟨hpeek, hforeign⟩
    have hsame : Cells.stored readingAndPrice.fields
        [.of (.float .double) 0x7FF8000000000001#64, .of .decimal ⟨-1230, 2⟩] =
        .ok [.of (.float .double) 0x7FF8000000000001#64, .of .decimal ⟨-1230, 2⟩] := rfl
    rcases Except.ok.inj (hsame.symm.trans hstored) with rfl
    exact ⟨hdecode, hpeek, (hforeign 0xFFFF_FFFF (by decide)).1⟩
  · have hencode : twoMarks.encode [.of .bool true, .null] (some 5) =
        .ok [5, 1, 0, 0, 0, 121, 0, 0] := by decide
    have hframed : twoMarks.padding.Overwritten [5, 1, 0, 0, 0, 121, 0, 0]
        [5, 1, 0, 0, 0, 121, 0, 7] :=
      @Padding.overwritten_of_append twoMarks.padding [] [7] rfl rfl [5, 1, 0, 0, 0, 121, 0]
    rcases (decode_behind_generation twoMarks).1 _ _ _ _ hencode hframed with ⟨⟨_, hstored, -, hdecode⟩, -⟩
    cases hstored
    exact hdecode

end DataLayout
end RecordBytes
