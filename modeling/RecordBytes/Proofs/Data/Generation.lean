import Mathlib
import RecordBytes.Format
import RecordBytes.Proofs.Cursor.Yields
import RecordBytes.Proofs.Data.Written
import RecordBytes.Proofs.Fault.Outcome
import RecordBytes.Proofs.Field.Stored

/-!
# Data of another generation

Data that was written with a generation carries it in front of its values.  A reader that expects another
generation reports the one it finds and reads no further, whatever the fields were that the data was written
with.  Before it looks at the generation it compares the length of the data with the least length of its own
fields, so data that the fields of an older schema left short is refused for its length instead.

Main results:

- `Generation.yields_read`: a written generation is read back.
- `DataLayout.encode_front`: written data begins, behind its padding, with its generation.
- `DataLayout.foreign_generation_reported`: foreign data is reported exactly when it has the least length
  that the reader's own fields need, and handed on with its row untouched.
-/

namespace RecordBytes

open Outcome

/-! ## Reading a generation -/

namespace Generation

/-- A generation of more than one byte is the word above it, with the top bit set. -/
theorem encode_of_le {generation : Nat} (h : 0x80 ≤ generation) :
    encode generation = UInt8.ofNat ((0x8000_0000 + generation) / 256 ^ 3) ::
      BigEndian.ofNat 3 (0x8000_0000 + generation) := by
  rw [encode, if_neg (by omega)]
  rfl

/-- A written generation is read back. -/
theorem yields_read {generation : Nat} (h : generation ≤ max) :
    Scan.Yields read (encode generation) generation := by
  have hmax : generation < 0x8000_0000 := Nat.lt_succ_of_le h
  by_cases hsmall : generation < 0x80
  · have hform : encode generation = [UInt8.ofNat generation] := by
      simp [encode, hsmall, BigEndian.ofNat]
    have hnumber : (UInt8.ofNat generation).toNat = generation := by
      simp only [UInt8.toNat_ofNat']
      omega
    have hlt : UInt8.ofNat generation < 0x80 := by
      rw [UInt8.lt_iff_toNat_lt, hnumber]
      exact hsmall
    rw [hform]
    apply (Scan.yields_byte "generation" _).bind_pure
    rw [if_pos hlt, hnumber]
  · rw [encode_of_le (Nat.le_of_not_lt hsmall)]
    have hfirst : (UInt8.ofNat ((0x8000_0000 + generation) / 256 ^ 3)).toNat =
        0x80 + generation / 0x100_0000 := by
      simp only [UInt8.toNat_ofNat']
      omega
    have hlarge : ¬ UInt8.ofNat ((0x8000_0000 + generation) / 256 ^ 3) < 0x80 := by
      rw [UInt8.lt_iff_toNat_lt, hfirst]
      exact Nat.not_lt.mpr (Nat.le_add_right _ _)
    apply (Scan.yields_byte "generation" _).bind
    rw [if_neg hlarge]
    apply (Scan.yields_number_mod 3 (0x8000_0000 + generation) "generation").bind_pure
    rw [hfirst]
    congr 1
    omega

end Generation

/-! ## Data of another generation -/

namespace DataLayout

/-- Written data begins, behind its padding, with its generation, which is small enough to be written. -/
theorem encode_front {layout : DataLayout} {values : List Value} {generation : Nat} {bytes : Bytes}
    (h : layout.encode values (some generation) = .ok bytes) :
    generation ≤ Generation.max ∧
      ∃ cells, bytes = layout.padding.wrap (Generation.encode generation ++ cells) := by
  rcases encode_eq_ok.mp h with ⟨-, hmax, stored, -, cells, -, rfl⟩
  exact ⟨hmax generation rfl, cells, rfl⟩

/-- A generation other than the expected one ends the reading of a body. -/
theorem readBehind_foreign {α : Type} (inner : Reading α) {expected actual : Nat} (cells : Bytes)
    (hmax : actual ≤ Generation.max) (hforeign : actual ≠ expected) :
    ∃ cursor, (readBehind (some expected) inner).runOn (Generation.encode actual ++ cells) =
      .ok (.foreign actual, cursor) := by
  have hread := Generation.yields_read hmax
    (Cursor.start (Generation.encode actual ++ cells) 0) cells (by simp [Cursor.start, Cursor.shown])
  refine ⟨(Cursor.start (Generation.encode actual ++ cells) 0).advance
    (Generation.encode actual).length, ?_⟩
  simp [Reading.runOn, readBehind, readForeign, Reading.ofScan, Bind.bind, EStateM.bind, hread,
    hforeign, pure, EStateM.pure]

/-- Data whose body begins with another generation is reported. -/
theorem decodeChecked_of_body {layout : DataLayout} {expected actual : Nat} {bytes cells : Bytes}
    (hmax : actual ≤ Generation.max) (hforeign : actual ≠ expected)
    (hbody : layout.body bytes (some expected) = .ok (Generation.encode actual ++ cells)) :
    layout.decodeChecked bytes (some expected) = .ok (.foreign actual) := by
  rcases readBehind_foreign layout.readValues cells hmax hforeign with ⟨cursor, hrun⟩
  simp [decodeChecked, hbody, hrun]

/-- What becomes of data of another generation: it is reported, unless it is shorter than the fields of
the reader need. -/
theorem decodeChecked_foreign {old new : DataLayout} (hpadding : old.padding = new.padding)
    {values : List Value} {expected actual : Nat} {bytes : Bytes}
    (hbytes : old.encode values (some actual) = .ok bytes) (hforeign : actual ≠ expected) :
    new.decodeChecked bytes (some expected) =
      if bytes.length < new.leastSize + 1 then
        .error (.corrupt (.dataTooShort (new.leastSize + 1) bytes.length))
      else .ok (.foreign actual) := by
  rcases encode_front hbytes with ⟨hmax, cells, hfront⟩
  rw [hpadding] at hfront
  by_cases hshort : bytes.length < new.leastSize + 1
  · simp [decodeChecked, body, hshort]
  · have hstrip : new.padding.strip? bytes = some (Generation.encode actual ++ cells) := by
      rw [hfront, Padding.strip?_wrap]
    rw [if_neg hshort]
    exact decodeChecked_of_body hmax hforeign (body_eq_ok.mpr ⟨Nat.le_of_not_lt hshort, hstrip⟩)

/-- Data of another generation is reported, whatever the fields were that it was written with, exactly when
it has the least length that the fields of the reader need behind a generation.  A handler is then given
the generation and all the bytes, on the untouched row, and what it does is the outcome; without a handler
the mismatch is the outcome.  Shorter data is refused for its length. -/
theorem foreign_generation_reported {old new : DataLayout} (hpadding : old.padding = new.padding)
    {values : List Value} {expected actual : Nat} {bytes : Bytes}
    (hbytes : old.encode values (some actual) = .ok bytes) (hforeign : actual ≠ expected) :
    (new.decodeChecked bytes (some expected) =
      if bytes.length < new.leastSize + 1 then
        .error (.corrupt (.dataTooShort (new.leastSize + 1) bytes.length))
      else .ok (.foreign actual)) ∧
    ∀ (format : RecordFormat) (row : Row), format.data = new → row.length = format.schema.size →
      ∀ (σ : Type) (host : σ) (handler : Option (RecordFormat.ForeignHandler σ)),
        format.decodeData bytes (some expected) handler (host, row) =
          if bytes.length < new.leastSize + 1 then
            .error (.corrupt (.dataTooShort (new.leastSize + 1) bytes.length)) (host, row)
          else
            match handler with
            | some handle => handle actual bytes (host, row)
            | none => .error (.corrupt (.generation expected actual)) (host, row) := by
  have hchecked := decodeChecked_foreign hpadding hbytes hforeign
  refine ⟨hchecked, ?_⟩
  rintro format row rfl hrow σ host handler
  have hrun : format.decodeDataChecked bytes (some expected) row =
      if bytes.length < format.data.leastSize + 1 then
        .error (.corrupt (.dataTooShort (format.data.leastSize + 1) bytes.length))
      else .ok (.foreign actual) := by
    by_cases hshort : bytes.length < format.data.leastSize + 1
    · simp [RecordFormat.decodeDataChecked, RecordFormat.checkRow, hrow, hchecked, hshort]
    · simp [RecordFormat.decodeDataChecked, RecordFormat.checkRow, hrow, hchecked, hshort]
  by_cases hshort : bytes.length < format.data.leastSize + 1
  · rw [if_pos hshort] at hrun ⊢
    simp only [RecordFormat.decodeData, hrun]
  · rw [if_neg hshort] at hrun ⊢
    simp only [RecordFormat.decodeData, hrun]
    cases handler with
    | some handle => rfl
    | none => rfl

/-- Data of a single truth value. -/
def flagOnly : DataLayout :=
  ⟨[Field.plain "flag" .bool false .unspecified], ⟨0, 0⟩⟩

/-- The same data with a 64-bit count behind the truth value. -/
def flagAndCount : DataLayout :=
  ⟨[Field.plain "flag" .bool false .unspecified, Field.plain "count" (.signed .w64) false .unspecified],
    ⟨0, 0⟩⟩

/-- A record of a single truth value outside its key. -/
def flagRecord : RecordFormat where
  typeName := "Flag"
  schema := ⟨flagOnly.fields.map Field.property, [], [0]⟩
  padding := ⟨⟨0, 0⟩, ⟨0, 0⟩⟩
  key := ⟨[], ⟨0, 0⟩⟩
  data := flagOnly
  snapshot := ⟨flagOnly.fields⟩

/-- Data with a count is reported to a reader that knows only the flag, and goes to the handler. -/
theorem flagAndCount_reported :
    flagOnly.decodeChecked [1, 1, 0, 0, 0, 0, 0, 0, 0, 7] (some 2) = .ok (.foreign 1) ∧
    ∀ handle : RecordFormat.ForeignHandler Unit,
      flagRecord.decodeData [1, 1, 0, 0, 0, 0, 0, 0, 0, 7] (some 2) (some handle) ((), [.null]) =
        handle 1 [1, 1, 0, 0, 0, 0, 0, 0, 0, 7] ((), [.null]) := by
  have hbytes : flagAndCount.encode [.of .bool true, .of (.signed .w64) 7] (some 1) =
      .ok [1, 1, 0, 0, 0, 0, 0, 0, 0, 7] := by decide
  have hpadding : flagAndCount.padding = flagOnly.padding := rfl
  have hforeign : 1 ≠ 2 := by decide
  rcases foreign_generation_reported hpadding hbytes hforeign with ⟨hchecked, hhanded⟩
  refine ⟨hchecked.trans (if_neg (by decide)), ?_⟩
  intro handle
  exact (hhanded flagRecord [.null] rfl rfl Unit () (some handle)).trans (if_neg (by decide))

/-- Data without a count is refused by a reader that knows it: not every foreign generation is reported. -/
theorem not_all_foreign_reported :
    ¬ ∀ (old new : DataLayout) (values : List Value) (expected actual : Nat) (bytes : Bytes),
      old.padding = new.padding → old.encode values (some actual) = .ok bytes → actual ≠ expected →
        new.decodeChecked bytes (some expected) = .ok (.foreign actual) := by
  intro hall
  have hbytes : flagOnly.encode [.of .bool true] (some 1) = .ok [1, 1] := by decide
  have hreported := hall flagOnly flagAndCount [.of .bool true] 2 1 [1, 1] rfl hbytes (by decide)
  have hrefused : flagAndCount.decodeChecked [1, 1] (some 2) =
      .error (.corrupt (.dataTooShort 10 2)) := by decide
  rw [hrefused] at hreported
  cases hreported

end DataLayout
end RecordBytes
