import Mathlib
import RecordBytes.Proofs.Compact.Reading
import RecordBytes.Proofs.Cursor.Finds

/-!
# What compact cells can hold

Every content has a compact form, but for one whose payload is too long for a length of four bytes and a
decimal whose scale does not fit four bytes.  The reader accepts forms that no writer makes: lengths in more
bytes than they need, and integers with needless leading bytes or none at all.  What it finds in them has a form
of its own nevertheless.

Main results:

- `Compact.exists_form_iff`: the contents that have a compact form.
- `Compact.finds_read`: whatever bytes are read, the value that is found has a cell.
-/

namespace RecordBytes

open Outcome

/-! ## Lengths -/

namespace LengthPrefix

/-- The lengths that can be written. -/
theorem exists_form_iff {length : Nat} :
    (∃ form, encode length = .ok form) ↔ length < 0x1_0000_0000 := by
  unfold encode
  repeat' split
  all_goals
    simp
    try omega

/-- The low-order bytes complete a length that can be written. -/
theorem finds_readTail {count high : Nat} (h : high * 256 ^ count + 256 ^ count ≤ 0x1_0000_0000) :
    Finds (fun found => ∀ length ∈ found, length < 0x1_0000_0000) (readTail count high) := by
  refine Finds.bind (Scan.finds_number count _) ?_
  intro low hlow
  apply Finds.pure
  rintro _ ⟨⟩
  omega

/-- What is read of a length can be written. -/
theorem finds_read : Finds (fun found => ∀ length ∈ found, length < 0x1_0000_0000) read := by
  refine Finds.bind (Finds.of_forall fun _ => trivial) ?_
  intro first _
  have hfirst := first.toNat_lt
  split
  · apply Finds.pure
    rintro _ ⟨⟩
    omega
  split
  · exact finds_readTail (by omega)
  split
  · exact finds_readTail (by omega)
  split
  · next hmarker =>
    have hlt := UInt8.lt_iff_toNat_lt.mp hmarker
    have hwide : UInt8.toNat 0xF0 = 240 := rfl
    exact finds_readTail (by omega)
  split
  · exact finds_readTail (by omega)
  split
  · exact Finds.pure (by simp)
  · exact Finds.throw _

end LengthPrefix

namespace Compact

/-! ## Contents -/

/-- A content that has a compact form. -/
def Writable : (kind : Kind) → kind.Content → Prop
  | .text, text => (Utf8.encode text).length < 0x1_0000_0000
  | .bytes, bytes => List.length bytes < 0x1_0000_0000
  | .bigint, number => TwosComplement.size number < 0x1_0000_0000
  | .decimal, decimal =>
    TwosComplement.size decimal.unscaled < 0x1_0000_0000 ∧
      -0x8000_0000 ≤ decimal.scale.toInt ∧ decimal.scale.toInt < 0x8000_0000
  | .bool, _ | .char, _ | .signed _, _ | .unsigned _, _ | .float _, _ | .lob, _ => True

theorem exists_withLength_iff {payload : Bytes} :
    (∃ form, withLength payload = .ok form) ↔ payload.length < 0x1_0000_0000 := by
  simp only [withLength_eq_ok, ← LengthPrefix.exists_form_iff]
  constructor
  · rintro ⟨_, front, hfront, rfl⟩
    exact ⟨front, hfront⟩
  · rintro ⟨front, hfront⟩
    exact ⟨_, front, hfront, rfl⟩

/-- The contents that have a compact form. -/
theorem exists_form_iff (kind : Kind) {content : kind.Content} :
    (∃ form, encodeContent kind content = .ok form) ↔ Writable kind content := by
  cases kind with
  | text | bytes => exact exists_withLength_iff
  | bigint =>
    rw [Writable, ← TwosComplement.length_ofInt]
    exact exists_withLength_iff
  | decimal =>
    rw [Writable, ← TwosComplement.length_ofInt, ← LengthPrefix.exists_form_iff]
    simp only [encodeContent, encodeDecimal_eq_ok]
    constructor
    · rintro ⟨_, hscale, front, hfront, rfl⟩
      exact ⟨⟨front, hfront⟩, hscale⟩
    · rintro ⟨⟨front, hfront⟩, hscale⟩
      exact ⟨_, hscale, front, hfront, rfl⟩
  | bool | char | signed | unsigned | float | lob => exact ⟨fun _ => trivial, fun _ => ⟨_, rfl⟩⟩

/-- A payload of a length that can be written holds a content that has a form of its own. -/
theorem writable_of_ofPayload {kind : Kind} {payload : Bytes} {length : Nat} {content : kind.Content}
    (hfits : length < 0x1_0000_0000) (hlength : payload.length = length + uncounted kind)
    (h : ofPayload kind payload = .ok content) : Writable kind content := by
  cases kind with
  | text =>
    cases hdecode : Utf8.decode payload with
    | error fault => simp [ofPayload, hdecode, Except.mapError] at h
    | ok text =>
      simp only [ofPayload, hdecode, Except.mapError, Except.ok.injEq] at h
      subst h
      rw [Writable, Utf8.encode_of_decode hdecode, hlength]
      exact hfits
  | bytes =>
    rcases Except.ok.inj h with rfl
    rw [Writable, hlength]
    exact hfits
  | bigint =>
    rcases Except.ok.inj h with rfl
    have hsize := TwosComplement.size_toInt_le payload
    have hnone : uncounted .bigint = 0 := rfl
    rw [Writable]
    omega
  | decimal =>
    rcases Except.ok.inj h with rfl
    have hfour : uncounted .decimal = 4 := rfl
    have hcounted : (payload.take (payload.length - 4)).length = length := by
      rw [List.length_take]
      omega
    have hscale : (payload.drop (payload.length - 4)).length = 4 := by
      rw [List.length_drop]
      omega
    have hsize := TwosComplement.size_toInt_le (payload.take (payload.length - 4))
    rcases TwosComplement.toInt_bounds hscale with ⟨hlow, hhigh⟩
    norm_num at hlow hhigh
    have hword : (Int64.ofInt (TwosComplement.toInt (payload.drop (payload.length - 4)))).toInt =
        TwosComplement.toInt (payload.drop (payload.length - 4)) :=
      Int64.toInt_ofInt_of_le (by omega) (by omega)
    rw [Writable]
    dsimp only
    rw [hword]
    exact ⟨by omega, hlow, hhigh⟩
  | bool | char | signed | unsigned | float | lob => trivial

/-! ## Cells -/

theorem finds_readPresence (nullable : Bool) :
    Finds (fun isPresent => isPresent = false → nullable = true) (readPresence nullable) := by
  unfold readPresence
  cases nullable with
  | true => exact Finds.of_forall fun _ _ => rfl
  | false => exact Finds.pure fun h => h.symm

theorem width_lt {kind : Kind} {width : Nat} (h : kind.width? = some width) : width < 0x1_0000_0000 := by
  cases kind with
  | text | bytes | bigint | decimal => cases h
  | bool | char | lob =>
    cases h
    decide
  | signed given | unsigned given =>
    cases h
    cases given <;> decide
  | float precision =>
    cases h
    cases precision <;> decide

/-- A length that can be written, or none where a value may be missing. -/
def Allowed (nullable : Bool) : Option Nat → Prop
  | some length => length < 0x1_0000_0000
  | none => nullable = true

theorem finds_readLength (kind : Kind) (nullable : Bool) :
    Finds (Allowed nullable) (readLength kind nullable) := by
  unfold readLength
  cases hwidth : kind.width? with
  | some width =>
    refine Finds.bind (finds_readPresence nullable) ?_
    intro isPresent hmissing
    apply Finds.pure
    cases isPresent with
    | true => exact width_lt hwidth
    | false => exact hmissing rfl
  | none =>
    refine Finds.bind LengthPrefix.finds_read ?_
    intro found hfits
    cases found with
    | some length => exact Finds.pure (hfits length rfl)
    | none =>
      cases nullable with
      | true => exact Finds.pure rfl
      | false => exact Finds.throw _

theorem finds_readPayload (kind : Kind) (length : Nat) :
    Finds (fun payload => payload.length = length + uncounted kind) (readPayload kind length) := by
  refine Finds.bind (Scan.finds_take length _) ?_
  intro payload hpayload
  unfold uncounted
  split
  · refine Finds.bind (Scan.finds_take 4 _) ?_
    intro scale hscale
    apply Finds.pure
    rw [List.length_append, hpayload, hscale]
  · exact Finds.pure hpayload

/-- Whatever bytes are read, the value that is found has a cell. -/
theorem finds_read (kind : Kind) (nullable : Bool) :
    Finds (fun value => ∃ cell, Cell kind nullable value cell) (read kind nullable) := by
  refine Finds.bind (finds_readLength kind nullable) ?_
  intro found hallowed
  cases found with
  | none => exact Finds.pure ⟨_, Cell.missing hallowed⟩
  | some length =>
    refine Finds.bind (finds_readPayload kind length) ?_
    intro payload hlength
    refine Finds.bind (Scan.finds_ofExcept fun content => writable_of_ofPayload hallowed hlength) ?_
    intro content hwritable
    rcases (exists_form_iff kind).mpr hwritable with ⟨form, hform⟩
    exact Finds.pure ⟨_, Cell.present hform⟩

end Compact
end RecordBytes
