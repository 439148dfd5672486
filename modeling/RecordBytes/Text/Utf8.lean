import RecordBytes.Bytes.Basic

/-!
# Text as UTF-8

Text is stored as its UTF-8 bytes.  Reading refuses bytes that are not text and says where: the index
of the first sequence that no text can contain, and how many of its bytes were acceptable before the
offending one, or that the input ended inside it.

Main results:

- `Utf8.encode`: the bytes of a text.
- `Utf8.decode_encode`, `Utf8.encode_of_decode`: decoding returns the text, and only its own bytes spell it.
-/

namespace RecordBytes

/-- Where and how bytes stop being text. -/
inductive Utf8Fault
  /-- The sequence that starts at `index` is ill-formed after `length` bytes. -/
  | invalid (length index : Nat)
  /-- The input ends inside the sequence that starts at `index`. -/
  | incomplete (index : Nat)
deriving DecidableEq, Repr

/-- The wording of a fault. -/
def Utf8Fault.message : Utf8Fault → String
  | .invalid length index => s!"invalid utf-8 sequence of {length} bytes from index {index}"
  | .incomplete index => s!"incomplete utf-8 byte sequence from index {index}"

namespace Utf8

/-- A sequence under way: where it started, how many bytes it has, how many are missing, and the
bounds of the next one. -/
structure Pending where
  start : Nat
  seen : Nat
  missing : Nat
  low : UInt8
  high : UInt8

/-- The sequence that a lead byte opens: only the second byte has bounds of its own, which keep out
overlong forms, surrogates and numbers past the last code point. -/
def openSequence? (start : Nat) (lead : UInt8) : Option Pending :=
  if lead < 0xC2 then none
  else if lead < 0xE0 then some ⟨start, 1, 1, 0x80, 0xBF⟩
  else if lead < 0xF0 then
    some ⟨start, 1, 2, if lead = 0xE0 then 0xA0 else 0x80, if lead = 0xED then 0x9F else 0xBF⟩
  else if lead < 0xF5 then
    some ⟨start, 1, 3, if lead = 0xF0 then 0x90 else 0x80, if lead = 0xF4 then 0x8F else 0xBF⟩
  else none

/-- The first place at which bytes stop being text, where `index` is the index of the first byte given
and `pending` the sequence it continues.  On text the place is the end. -/
def firstFault (index : Nat) (pending : Option Pending) : Bytes → Utf8Fault
  | [] => .incomplete ((pending.map Pending.start).getD index)
  | byte :: rest =>
    match pending with
    | none =>
      if byte < 0x80 then firstFault (index + 1) none rest
      else
        match openSequence? index byte with
        | none => .invalid 1 index
        | some sequence => firstFault (index + 1) (some sequence) rest
    | some sequence =>
      if byte < sequence.low ∨ sequence.high < byte then .invalid sequence.seen sequence.start
      else if sequence.missing ≤ 1 then firstFault (index + 1) none rest
      else
        firstFault (index + 1)
          (some ⟨sequence.start, sequence.seen + 1, sequence.missing - 1, 0x80, 0xBF⟩) rest

/-- The bytes of a text. -/
def encode (text : String) : Bytes :=
  text.toUTF8.data.toList

/-- The text that bytes spell, or where they stop being text. -/
def decode (bytes : Bytes) : Except Utf8Fault String :=
  match String.fromUTF8? ⟨bytes.toArray⟩ with
  | some text => .ok text
  | none => .error (firstFault 0 none bytes)

/-- Decoding the bytes of a text returns the text. -/
theorem decode_encode (text : String) : decode (encode text) = .ok text := by
  have hbytes : (⟨(encode text).toArray⟩ : ByteArray) = text.toUTF8 := by
    simp [encode]
  have htext : String.fromUTF8? text.toUTF8 = some text := by
    simp only [String.fromUTF8?, String.toUTF8_eq_toByteArray, dif_pos text.isValidUTF8]
    rfl
  simp only [decode, hbytes, htext]

/-- The bytes of a decoded text are those it was decoded from. -/
theorem encode_of_decode {bytes : Bytes} {text : String} (h : decode bytes = .ok text) :
    encode text = bytes := by
  unfold decode at h
  split at h
  · next found hfound =>
    rcases Except.ok.inj h with rfl
    unfold String.fromUTF8? at hfound
    split at hfound
    · rcases Option.some.inj hfound with rfl
      simp [encode, String.fromUTF8]
    · cases hfound
  · cases h
end Utf8
end RecordBytes
