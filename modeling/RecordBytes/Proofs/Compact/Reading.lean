import Mathlib
import RecordBytes.Proofs.Bytes.TwosComplement
import RecordBytes.Proofs.Compact.Size
import RecordBytes.Proofs.Cursor.Yields

/-!
# Reading compact cells

A compact cell is read back as exactly the value it was written for: the bits of a number, NaNs included, the
unscaled integer and the scale of a decimal.

Main results:

- `Compact.written_of_encode`: the payload of a content, and what stands in front of it.
- `Compact.yields_read`: a cell is read back, whatever is written behind it.
-/

namespace RecordBytes.Compact

open Outcome

/-! ## Payloads -/

/-- The number of bytes of a payload that its length does not count: those of the scale of a decimal. -/
def uncounted (kind : Kind) : Nat :=
  if kind = .decimal then 4 else 0

/-- What is written for a content: a payload of the width of the kind, or a payload behind its length. -/
inductive Written (kind : Kind) (content : kind.Content) : Bytes → Prop
  | fixed {width : Nat} {payload : Bytes} (hwidth : kind.width? = some width)
      (hlength : payload.length = width) (hpayload : ofPayload kind payload = .ok content) :
      Written kind content payload
  | measured {length : Nat} {front payload : Bytes} (hwidth : kind.width? = none)
      (hfront : LengthPrefix.encode length = .ok front)
      (hlength : payload.length = length + uncounted kind)
      (hpayload : ofPayload kind payload = .ok content) : Written kind content (front ++ payload)

/-- The unscaled integer and the scale of a decimal are told apart by the width of the scale. -/
theorem ofPayload_decimal {decimal : Decimal} (hlow : -0x8000_0000 ≤ decimal.scale.toInt)
    (hhigh : decimal.scale.toInt < 0x8000_0000) :
    ofPayload .decimal (TwosComplement.ofInt decimal.unscaled ++
      BigEndian.ofNat 4 (BitVec.ofInt 32 decimal.scale.toInt).toNat) = .ok decimal := by
  have hscale : TwosComplement.toInt (BigEndian.ofNat 4 (BitVec.ofInt 32 decimal.scale.toInt).toNat) =
      decimal.scale.toInt := by
    have hword := TwosComplement.toInt_ofNat (by decide : 0 < 4)
      (BitVec.ofInt (8 * 4) decimal.scale.toInt)
    rw [BitVec.toInt_ofInt_eq_self (by decide) hlow hhigh] at hword
    exact hword
  simp only [ofPayload, List.length_append, BigEndian.length_ofNat, Nat.add_sub_cancel]
  rw [List.take_left, List.drop_left, TwosComplement.toInt_ofInt, hscale, Int64.ofInt_toInt]

/-- What is written for a content holds the payload that the content is read from. -/
theorem written_of_encode (kind : Kind) {content : kind.Content} {form : Bytes}
    (h : encodeContent kind content = .ok form) : Written kind content form := by
  cases kind with
  | bool =>
    rcases Except.ok.inj h with rfl
    exact Written.fixed rfl rfl (by cases content <;> rfl)
  | char =>
    rcases Except.ok.inj h with rfl
    have hlt : content.toNat < 256 ^ 4 := content.val.toNat_lt
    have hvalid : content.toNat.isValidChar := content.valid
    refine Written.fixed rfl (BigEndian.length_ofNat 4 _) ?_
    simp only [ofPayload, BigEndian.toNat_ofNat, Nat.mod_eq_of_lt hlt, hvalid, if_true,
      Char.ofNat_toNat]
  | signed | unsigned | float =>
    rcases Except.ok.inj h with rfl
    exact Written.fixed rfl (BigEndian.length_ofNat _ _) (by simp [ofPayload])
  | text =>
    rcases withLength_eq_ok.mp h with ⟨front, hfront, rfl⟩
    refine Written.measured rfl hfront rfl ?_
    rw [ofPayload, Utf8.decode_encode]
    rfl
  | bytes =>
    rcases withLength_eq_ok.mp h with ⟨front, hfront, rfl⟩
    exact Written.measured rfl hfront rfl rfl
  | bigint =>
    rcases withLength_eq_ok.mp h with ⟨front, hfront, rfl⟩
    refine Written.measured rfl hfront rfl ?_
    rw [ofPayload, TwosComplement.toInt_ofInt]
  | decimal =>
    rcases encodeDecimal_eq_ok.mp h with ⟨hscale, front, hfront, rfl⟩
    refine Written.measured rfl hfront ?_ (ofPayload_decimal hscale.1 hscale.2)
    simp [uncounted]
  | lob =>
    rcases Except.ok.inj h with rfl
    have hspelt := @BigEndian.toNat_ofNat_word 8 content
    refine Written.fixed rfl (BigEndian.length_ofNat 8 _) ?_
    simp [ofPayload, hspelt]

/-- A kind of fixed width has no scale behind its payload. -/
theorem uncounted_of_width? {kind : Kind} {width : Nat} (h : kind.width? = some width) :
    uncounted kind = 0 := by
  cases kind with
  | decimal => cases h
  | bool | char | signed | unsigned | float | text | bytes | bigint | lob => rfl

/-- A payload is read when its length is known. -/
theorem yields_readPayload {kind : Kind} {length : Nat} {payload : Bytes}
    (h : payload.length = length + uncounted kind) :
    Scan.Yields (readPayload kind length) payload payload := by
  unfold uncounted at h
  by_cases hkind : kind = .decimal
  · rw [if_pos hkind] at h
    have hcounted : (payload.take length).length = length := List.length_take_of_le (by omega)
    have hscale : (payload.drop length).length = 4 := by
      rw [List.length_drop]
      omega
    rw [← List.take_append_drop length payload]
    apply (Scan.yields_take kind.name hcounted).bind
    rw [if_pos hkind]
    apply (Scan.yields_take "decimal scale" hscale).bind_pure
    rfl
  · rw [if_neg hkind, Nat.add_zero] at h
    apply (Scan.yields_take kind.name h).bind_pure
    rw [if_neg hkind]

/-! ## Cells -/

/-- The byte in front of a value that is there. -/
theorem yields_readPresence (nullable : Bool) :
    Scan.Yields (readPresence nullable) (if nullable then [Compact.present] else []) true := by
  cases nullable with
  | false => exact Scan.Yields.pure true
  | true => exact (Scan.yields_byte "presence byte" Compact.present).bind_pure rfl

/-- The byte that stands for a missing value is read as no length. -/
theorem yields_readLength_missing (kind : Kind) :
    Scan.Yields (readLength kind true)
      [if kind.width?.isSome then absent else LengthPrefix.nullSentinel] none := by
  unfold readLength
  cases kind.width? with
  | some width =>
    have hpresence : Scan.Yields (readPresence true) [absent] false :=
      (Scan.yields_byte "presence byte" absent).bind_pure rfl
    exact hpresence.bind_pure rfl
  | none => exact LengthPrefix.yields_read_null.bind_pure rfl

/-- A width of the kind is the length of a payload that is there. -/
theorem yields_readLength_fixed {kind : Kind} {width : Nat} (hwidth : kind.width? = some width)
    (nullable : Bool) :
    Scan.Yields (readLength kind nullable) (if nullable then [Compact.present] else []) (some width) := by
  unfold readLength
  rw [hwidth]
  exact (yields_readPresence nullable).bind_pure rfl

/-- A written length is that of a payload that is there. -/
theorem yields_readLength_measured {kind : Kind} {length : Nat} {front : Bytes} (hwidth : kind.width? = none)
    (hfront : LengthPrefix.encode length = .ok front) (nullable : Bool) :
    Scan.Yields (readLength kind nullable) front (some length) := by
  unfold readLength
  rw [hwidth]
  exact (LengthPrefix.yields_read hfront).bind_pure rfl

/-- A payload behind what its length is read from is read as the content it holds. -/
theorem yields_read_of_payload {kind : Kind} {nullable : Bool} {content : kind.Content} {length : Nat}
    {front payload : Bytes} (hfront : Scan.Yields (readLength kind nullable) front (some length))
    (hlength : payload.length = length + uncounted kind) (hpayload : ofPayload kind payload = .ok content) :
    Scan.Yields (read kind nullable) (front ++ payload) (.of kind content) := by
  apply hfront.bind
  apply (yields_readPayload hlength).bind_pure
  rw [hpayload]
  rfl

/-- A cell is read back, whatever is written behind it. -/
theorem yields_read {kind : Kind} {nullable : Bool} {value : Value} {cell : Bytes}
    (h : encode kind nullable value = .ok cell) : Scan.Yields (read kind nullable) cell value := by
  cases encode_eq_ok.mp h with
  | missing hnullable =>
    subst hnullable
    exact (yields_readLength_missing kind).bind_pure rfl
  | @present content form hform =>
    cases written_of_encode kind hform with
    | @fixed width _ hwidth hlength hpayload =>
      rw [hwidth, Option.isSome_some, Bool.and_true]
      have hcounted : form.length = width + uncounted kind := by
        rw [uncounted_of_width? hwidth, Nat.add_zero, hlength]
      exact yields_read_of_payload (yields_readLength_fixed hwidth nullable) hcounted hpayload
    | @measured length front payload hwidth hfront hlength hpayload =>
      rw [hwidth, Option.isSome_none, Bool.and_false, if_neg Bool.false_ne_true, List.nil_append]
      exact yields_read_of_payload (yields_readLength_measured hwidth hfront nullable) hlength hpayload

end RecordBytes.Compact
