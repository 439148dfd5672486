import Mathlib
import RecordBytes.Compact.LengthPrefix
import RecordBytes.Proofs.Cursor.Yields

/-!
# Reading lengths

The first byte of a length in more than one byte is a marker raised by the high-order part of the length.
The part is small enough for the byte to stay below the next marker, so the first byte alone tells how many
bytes follow.

Main results:

- `LengthPrefix.size_of_encode`: a written length has the measured size, which is at least one.
- `LengthPrefix.yields_read`: a written length is read back.
- `LengthPrefix.yields_read_null`: the byte that stands in place of a length is read as no length.
-/

namespace RecordBytes.LengthPrefix

theorem size_of_encode {length : Nat} {form : Bytes} (h : encode length = .ok form) :
    size length = .ok form.length := by
  rw [← length_encode, h]
  rfl

theorem pos_of_size {length count : Nat} (h : size length = .ok count) : 0 < count := by
  unfold size at h
  repeat' split at h
  all_goals cases h
  all_goals decide

/-! ## First bytes -/

/-- Reads what follows the first byte of a length. -/
def readBehind (first : UInt8) : Scan (Option Nat) :=
  if first.toNat < 0x80 then pure (some first.toNat)
  else if first.toNat < 0xC0 then readTail 1 (first.toNat - 0x80)
  else if first.toNat < 0xE0 then readTail 2 (first.toNat - 0xC0)
  else if first.toNat < 0xF0 then readTail 3 (first.toNat - 0xE0)
  else if first = wideMarker then readTail 4 0
  else if first = nullSentinel then pure none
  else throw (.lengthMarker first)

theorem read_eq : read = Scan.byte "length" >>= readBehind := rfl

/-- The first byte of a length behind a marker is the marker raised by the high-order part of the length. -/
theorem toNat_first {width marker length : Nat} (h : marker * 256 ^ width + length < 256 ^ (width + 1)) :
    (UInt8.ofNat ((marker * 256 ^ width + length) / 256 ^ width)).toNat =
      marker + length / 256 ^ width := by
  have hpos : 0 < 256 ^ width := Nat.pow_pos (by decide)
  have hlt : (marker * 256 ^ width + length) / 256 ^ width < 256 := by
    rwa [Nat.div_lt_iff_lt_mul hpos, ← Nat.pow_succ']
  rw [UInt8.toNat_ofNat', Nat.mod_eq_of_lt hlt, Nat.mul_comm, Nat.mul_add_div hpos]

/-! ## Reading -/

/-- The low-order bytes of a length complete its high-order part, whatever marker stands in front. -/
theorem yields_readTail (width marker length : Nat) :
    Scan.Yields (readTail width (length / 256 ^ width))
      (BigEndian.ofNat width (marker * 256 ^ width + length)) (some length) := by
  apply (Scan.yields_number_mod width (marker * 256 ^ width + length) "length").bind_pure
  rw [Nat.mul_comm marker, Nat.mul_add_mod, Nat.mul_comm, Nat.div_add_mod]

/-- A length behind a marker is read back, where the marker makes the reader take that many bytes. -/
theorem yields_read_marked (width marker : Nat) {length : Nat}
    (hfits : marker * 256 ^ width + length < 256 ^ (width + 1))
    (hmarker : ∀ first : UInt8, first.toNat = marker + length / 256 ^ width →
      readBehind first = readTail width (first.toNat - marker)) :
    Scan.Yields read (BigEndian.ofNat (width + 1) (marker * 256 ^ width + length)) (some length) := by
  have hfirst := toNat_first hfits
  have hbehind := hmarker _ hfirst
  rw [hfirst, Nat.add_sub_cancel_left] at hbehind
  rw [read_eq]
  apply (Scan.yields_byte "length" _).bind
  rw [hbehind]
  exact yields_readTail width marker length

/-- A written length is read back. -/
theorem yields_read {length : Nat} {form : Bytes} (h : encode length = .ok form) :
    Scan.Yields read form (some length) := by
  unfold encode at h
  split at h
  · next hone =>
    rcases Except.ok.inj h with rfl
    have hnumber : (UInt8.ofNat length).toNat = length := by
      rw [UInt8.toNat_ofNat', Nat.mod_eq_of_lt (by omega)]
    have hform : BigEndian.ofNat 1 length = [UInt8.ofNat length] := by simp [BigEndian.ofNat]
    rw [hform, read_eq]
    apply (Scan.yields_byte "length" _).bind_pure
    rw [readBehind, if_pos (by omega), hnumber]
  split at h
  · rcases Except.ok.inj h with rfl
    apply yields_read_marked 1 0x80 (by omega)
    intro first hfirst
    rw [readBehind, if_neg (by omega), if_pos (by omega)]
  split at h
  · rcases Except.ok.inj h with rfl
    apply yields_read_marked 2 0xC0 (by omega)
    intro first hfirst
    rw [readBehind, if_neg (by omega), if_neg (by omega), if_pos (by omega)]
  split at h
  · rcases Except.ok.inj h with rfl
    apply yields_read_marked 3 0xE0 (by omega)
    intro first hfirst
    rw [readBehind, if_neg (by omega), if_neg (by omega), if_neg (by omega), if_pos (by omega)]
  split at h
  · next hfive =>
    -- The marker of a length of four whole bytes holds no part of the length.
    rcases Except.ok.inj h with rfl
    have hhigh : length / 256 ^ 4 = 0 := by omega
    have htail := yields_readTail 4 0 length
    rw [hhigh, Nat.zero_mul, Nat.zero_add] at htail
    exact (Scan.yields_byte "length" wideMarker).bind htail
  · cases h

/-- The byte that stands in place of a length is read as no length. -/
theorem yields_read_null : Scan.Yields read [nullSentinel] none :=
  (Scan.yields_byte "length" nullSentinel).bind_pure rfl

end RecordBytes.LengthPrefix
