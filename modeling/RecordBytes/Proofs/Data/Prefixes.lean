import Mathlib
import RecordBytes.Proofs.Compact.LengthForms
import RecordBytes.Proofs.Data.Generation
import RecordBytes.Proofs.Writing.Appends

/-!
# Lengths and generations in a stream

A length in front of a payload and a generation in front of data both say in their first byte where they end, so
each is read back from any stream that goes on behind it.  A generation has one marker bit, which is above all
bits that a generation can have.

Main definitions:

- `Generation.flagged`: a generation with its marker bit set.

Main results:

- `Generation.encode_eq_flagged`: the marker of a written generation stands above its bits.
- `prefixes_read_back`: lengths and generations behind any buffer and in front of any stream, and lengths read of
  any bytes.
-/

namespace RecordBytes

namespace Generation

/-- The form of a generation, with the marker bit of four bytes set above its own. -/
def flagged (generation : Nat) : Bytes :=
  if generation < 0x80 then BigEndian.ofNat 1 generation
  else BigEndian.ofNat 4 (generation ||| 0x8000_0000)

/-- A generation that can be written is written with its marker bit set. -/
theorem encode_eq_flagged {generation : Nat} (h : generation ≤ max) : encode generation = flagged generation := by
  have hmax : generation < 2 ^ 31 := Nat.lt_succ_of_le h
  rw [encode, flagged, or_marker 0x8000_0000 31 1 rfl hmax]

end Generation

/-- A length that fits four bytes is appended to any buffer as its form with the marker bits set, of the measured
size; the form does not begin with the byte that stands for no payload, is read back in front of any stream, and
is the shortest one that is read as the length.  A larger length is neither measured nor appended.  A generation
that can be written is appended and read back likewise.  Of any bytes, nothing is found in place of a length only
behind the byte that stands for no payload; reading fails exactly when the bytes end before the length does, or
when the first one is reserved; and any length that is found fits four bytes. -/
theorem prefixes_read_back :
    (∀ length < 0x1_0000_0000,
      LengthPrefix.size length = .ok (LengthPrefix.marked length).length ∧
      (∀ buffer, LengthPrefix.write length buffer = .ok () (buffer ++ LengthPrefix.marked length)) ∧
      (LengthPrefix.marked length).head? ≠ some LengthPrefix.nullSentinel ∧
      Scan.Yields LengthPrefix.read (LengthPrefix.marked length) (some length) ∧
      ∀ cursor after, LengthPrefix.read cursor = .ok (some length) after →
        ∃ count, after = cursor.advance count ∧ count ≤ cursor.remaining ∧
          (LengthPrefix.marked length).length ≤ count) ∧
    (∀ length, 0x1_0000_0000 ≤ length →
      LengthPrefix.size length = .error (.lengthTooLarge length) ∧
      ∀ buffer, LengthPrefix.write length buffer = .error (.lengthTooLarge length) buffer) ∧
    (∀ generation ≤ Generation.max,
      Generation.size generation = (Generation.flagged generation).length ∧
      (∀ buffer, Generation.write generation buffer = .ok () (buffer ++ Generation.flagged generation)) ∧
      Scan.Yields Generation.read (Generation.flagged generation) generation) ∧
    ∀ cursor : Cursor,
      (∀ after, LengthPrefix.read cursor = .ok none after → cursor.shown.head? = some LengthPrefix.nullSentinel) ∧
      (∀ damage, (∃ after, LengthPrefix.read cursor = .error damage after) ↔
        (damage = .endOfInput "length" ∧ LengthPrefix.Truncated cursor.shown) ∨
        ∃ first, damage = .lengthMarker first ∧ cursor.shown.head? = some first ∧ LengthPrefix.Reserved first) ∧
      ∀ length after, LengthPrefix.read cursor = .ok (some length) after → length < 0x1_0000_0000 := by
  refine ⟨?_, ?_, ?_, ?_⟩
  · intro length hlength
    have hencode := LengthPrefix.encode_eq_marked hlength
    have hsize := LengthPrefix.size_of_encode hencode
    refine ⟨hsize, LengthPrefix.write_of_lt hlength, LengthPrefix.head_marked_ne hlength,
      LengthPrefix.yields_read hencode, ?_⟩
    intro cursor after hread
    rcases LengthPrefix.shortest_of_read hread with ⟨count, needed, hafter, hcount, hneeded, hle⟩
    rw [hsize] at hneeded
    exact ⟨count, hafter, hcount, Except.ok.inj hneeded ▸ hle⟩
  · intro length hlength
    exact ⟨LengthPrefix.size_of_le hlength, LengthPrefix.write_of_le hlength⟩
  · intro generation hgeneration
    rw [← Generation.encode_eq_flagged hgeneration]
    exact ⟨(Generation.length_encode generation).symm, (Writing.Appends.put _).eq_ok,
      Generation.yields_read hgeneration⟩
  · intro cursor
    refine ⟨fun after => LengthPrefix.head_of_read_none, fun damage => LengthPrefix.read_eq_error_iff, ?_⟩
    intro length after hread
    exact LengthPrefix.finds_read hread length rfl

/-- A length in two bytes and a generation in four, a length that is too large, a length that ends too early, and
a reserved first byte. -/
theorem prefixes_read_back_markers :
    (LengthPrefix.write 300 [7] = .ok () [7, 0x81, 0x2C] ∧
      Scan.Yields LengthPrefix.read [0x81, 0x2C] (some 300)) ∧
    LengthPrefix.write 0x1_0000_0000 [7] = .error (.lengthTooLarge 0x1_0000_0000) [7] ∧
    (Generation.write 200 [7] = .ok () [7, 0x80, 0, 0, 0xC8] ∧
      Scan.Yields Generation.read [0x80, 0, 0, 0xC8] 200) ∧
    (∃ after, LengthPrefix.read (Cursor.start [0xC1, 0] 0) = .error (.endOfInput "length") after) ∧
    ∃ after, LengthPrefix.read (Cursor.start [0xF5, 0] 0) = .error (.lengthMarker 0xF5) after := by
  have hmarked : LengthPrefix.marked 300 = [0x81, 0x2C] := by decide
  have hflagged : Generation.flagged 200 = [0x80, 0, 0, 0xC8] := by decide
  rcases prefixes_read_back with ⟨hlengths, hlarge, hgenerations, hany⟩
  rcases hlengths 300 (by decide) with ⟨-, hwrite, -, hread, -⟩
  rcases hgenerations 200 (by decide) with ⟨-, hwriteGeneration, hreadGeneration⟩
  rw [hmarked] at hwrite hread
  rw [hflagged] at hwriteGeneration hreadGeneration
  refine ⟨⟨hwrite [7], hread⟩, (hlarge _ (Nat.le_refl _)).2 [7], ⟨hwriteGeneration [7], hreadGeneration⟩, ?_, ?_⟩
  · refine ((hany (Cursor.start [0xC1, 0] 0)).2.1 _).mpr (Or.inl ⟨rfl, ?_⟩)
    exact LengthPrefix.truncated_cons.mpr (by decide)
  · exact ((hany (Cursor.start [0xF5, 0] 0)).2.1 _).mpr (Or.inr ⟨0xF5, rfl, rfl, by decide, by decide⟩)

end RecordBytes
