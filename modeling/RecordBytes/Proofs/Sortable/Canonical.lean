import Mathlib
import RecordBytes.Proofs.Cursor.Spelling
import RecordBytes.Proofs.Sortable.Reading
import RecordBytes.Proofs.Sortable.Scanning

/-!
# Sortable cells that are spelled in one way

Most kinds have only one sortable form for each content: whatever bytes a content is read from, they are the
form that is written for it.  The exceptions are integers of any size and decimals, whose readers take needless
bytes and digits, and NaNs, which are all written as the canonical one.

Main results:

- `Escaped.spells_read`: escaped bytes are the escaped form of what they are read as.
- `Floating.sortable_ofSortable`: a word that is not read as a NaN is the sorting word of its number.
- `Sortable.spells_readContent`, `Sortable.spells_read`: the bytes of a content, or of a cell, are those that are
  written for it.
- `Sortable.apply_map_mask`: what a cell shows under its mask, with the order applied, is the cell.
-/

namespace RecordBytes

/-- The kinds with one sortable form for each content that is not a NaN. -/
def Kind.isCanonical : Kind → Bool
  | bool | char | signed _ | unsigned _ | float _ | text | bytes | lob => true
  | bigint | decimal => false

/-- Whether the value is a floating-point value that is not a number. -/
def Value.isNaN : Value → Bool
  | .of (.float _) bits => Floating.isNaN bits
  | _ => false

/-! ## Escaped byte strings -/

namespace Escaped

/-- Escaped bytes are the escaped form of what they are read as; a zero that awaits its partner belongs to the
form. -/
theorem spelled_readFrom {mask : UInt8} {position : Nat} {afterZero : Bool} {unread content : Bytes}
    {after : Cursor} (h : readFrom mask position afterZero unread = .ok content after) :
    ∃ moved, unread = moved ++ after.unread ∧ after.mask = mask ∧
      (if afterZero then [0] else []) ++ moved.map (· ^^^ mask) = encode content := by
  induction unread generalizing position afterZero content with
  | nil => cases h
  | cons masked rest ih =>
    simp only [readFrom] at h
    cases afterZero with
    | true =>
      rw [if_pos rfl] at h
      split at h
      · next hzero =>
        cases h
        exact ⟨[masked], rfl, rfl, by simp [hzero, encode]⟩
      · split at h
        · next hone =>
          rcases prepend_eq_ok.mp h with ⟨found, hfound, rfl⟩
          rcases ih hfound with ⟨moved, hrest, hmask, hform⟩
          refine ⟨masked :: moved, congrArg _ hrest, hmask, ?_⟩
          rw [List.map_cons, hone, encode_cons_zero, ← hform]
          rfl
        · cases h
    | false =>
      rw [if_neg Bool.false_ne_true] at h
      split at h
      · next hzero =>
        rcases ih h with ⟨moved, hrest, hmask, hform⟩
        refine ⟨masked :: moved, congrArg _ hrest, hmask, ?_⟩
        rw [List.map_cons, hzero, ← hform]
        rfl
      · next hzero =>
        rcases prepend_eq_ok.mp h with ⟨found, hfound, rfl⟩
        rcases ih hfound with ⟨moved, hrest, hmask, hform⟩
        refine ⟨masked :: moved, congrArg _ hrest, hmask, ?_⟩
        rw [List.map_cons, encode_cons_of_ne hzero, ← hform]
        rfl

/-- Escaped bytes are the escaped form of what they are read as. -/
theorem spells_read : Spells (fun content moved => encode content = moved) read := by
  intro cursor after content hrun
  rcases spelled_readFrom hrun with ⟨moved, hunread, hmask, hform⟩
  exact ⟨moved, hunread, hmask, hform.symm⟩

end Escaped

/-! ## Floating-point numbers -/

/-- A word that is not read as a NaN is the sorting word of the number it is read as. -/
theorem Floating.sortable_ofSortable {precision : Precision} {word : precision.Bits}
    (h : isNaN (ofSortable word) = false) : sortable (ofSortable word) = word := by
  have hpos : 0 < 8 * precision.bytes := by cases precision <;> decide
  unfold sortable
  rw [canonical_of_number h]
  unfold ofSortable
  cases hmsb : word.msb with
  | true => simp [BitVec.msb_xor, BitVec.msb_intMin, hmsb, hpos]
  | false => simp [BitVec.msb_not, hmsb, hpos]

/-! ## Contents -/

namespace Sortable

/-- A number that was read from some bytes, as a word of their size, is written as these bytes. -/
theorem ofNat_word {width : Nat} {moved : Bytes} (hlength : moved.length = width) :
    BigEndian.ofNat width (BitVec.ofNat (8 * width) (BigEndian.toNat moved)).toNat = moved := by
  have hlt : BigEndian.toNat moved < 2 ^ (8 * width) := by
    rw [Nat.pow_mul, ← hlength]
    exact BigEndian.toNat_lt moved
  rw [BitVec.toNat_ofNat, Nat.mod_eq_of_lt hlt, ← hlength]
  exact BigEndian.ofNat_toNat moved

/-- Some bytes are the sortable form of a content, unless it is a NaN. -/
def Spelling (kind : Kind) (content : kind.Content) (form : Bytes) : Prop :=
  (Value.of kind content).isNaN = false → encodeContent kind content = .ok form

/-- Whatever bytes a content is read from, they are its sortable form. -/
theorem spells_readContent {kind : Kind} (hkind : kind.isCanonical = true) :
    Spells (Spelling kind) (readContent kind) := by
  cases kind with
  | bool =>
    refine (Scan.spells_byte _).bind ?_
    rintro byte moved rfl
    split
    · next hzero => exact Spells.pure fun _ => by rw [hzero]; rfl
    · split
      · next hone => exact Spells.pure fun _ => by rw [hone]; rfl
      · exact Spells.throw _
  | char =>
    refine (Scan.spells_number 4 _).bind ?_
    rintro number moved ⟨hlength, rfl⟩
    split
    · next hvalid =>
      refine Spells.pure fun _ => ?_
      have htoNat : (Char.ofNat (BigEndian.toNat moved)).toNat = BigEndian.toNat moved := by
        rw [Char.ofNat, dif_pos hvalid]
        rfl
      rw [List.append_nil, encodeContent, htoNat, ← hlength, BigEndian.ofNat_toNat]
    · exact Spells.throw _
  | signed width =>
    refine (Scan.spells_number width.bytes _).map ?_
    rintro number moved ⟨hlength, rfl⟩ _
    rw [encodeContent, SignedWord.flip_flip, ofNat_word hlength]
  | unsigned width =>
    refine (Scan.spells_number width.bytes _).map ?_
    rintro number moved ⟨hlength, rfl⟩ _
    rw [encodeContent, ofNat_word hlength]
  | float precision =>
    refine (Scan.spells_number precision.bytes _).map ?_
    rintro number moved ⟨hlength, rfl⟩ hnumber
    rw [encodeContent, Floating.sortable_ofSortable hnumber, ofNat_word hlength]
  | text =>
    refine Escaped.spells_read.bind ?_
    rintro bytes moved hform
    refine Scan.spells_ofExcept ?_
    intro text htext _
    cases hdecode : Utf8.decode bytes with
    | error fault => simp [hdecode, Except.mapError] at htext
    | ok found =>
      rw [hdecode] at htext
      rcases Except.ok.inj htext with rfl
      rw [encodeContent, Utf8.encode_of_decode hdecode, hform, List.append_nil]
  | bytes =>
    refine Escaped.spells_read.imp ?_
    intro content moved hform _
    rw [encodeContent, hform]
  | bigint => cases hkind
  | decimal => cases hkind
  | lob =>
    refine (Scan.spells_number 8 _).map ?_
    rintro number moved ⟨hlength, rfl⟩ _
    exact congrArg Except.ok (ofNat_word hlength)

/-! ## Cells -/

/-- The marker that a cell may begin with is the one that is written. -/
theorem spells_readPresence (nullable : Bool) :
    Spells
      (fun present moved =>
        if present then moved = if nullable then [presentMarker] else []
        else nullable = true ∧ moved = [nullMarker])
      (readPresence nullable) := by
  cases nullable with
  | false => exact Spells.pure rfl
  | true =>
    refine (Scan.spells_byte _).bind ?_
    rintro marker moved rfl
    by_cases hmissing : marker = nullMarker
    · rw [if_pos hmissing]
      exact Spells.pure ⟨rfl, congrArg (fun byte => [byte]) hmissing⟩
    · rw [if_neg hmissing]
      by_cases hpresent : marker = presentMarker
      · rw [if_pos hpresent]
        exact Spells.pure (congrArg (fun byte => [byte]) hpresent)
      · rw [if_neg hpresent]
        exact Spells.throw _

/-- Whatever bytes a value is read from, they are its cell, unless it is a NaN. -/
theorem spells_read {kind : Kind} (hkind : kind.isCanonical = true) (nullable : Bool) :
    Spells (fun value moved => value.isNaN = false → Cell kind nullable value moved) (read kind nullable) := by
  refine (spells_readPresence nullable).bind ?_
  intro present marker hmarker
  cases present with
  | false =>
    rcases hmarker with ⟨hnullable, rfl⟩
    exact Spells.pure fun _ => Cell.missing hnullable
  | true =>
    obtain rfl : marker = if nullable then [presentMarker] else [] := hmarker
    refine (spells_readContent hkind).map ?_
    intro content form hform hnumber
    exact Cell.present (hform hnumber)

/-! ## Orders -/

/-- What a cell shows under the mask of its order, with the order applied, is the cell. -/
theorem apply_map_mask (order : SortOrder) (cell : Bytes) :
    order.apply (cell.map (· ^^^ order.mask)) = cell := by
  unfold SortOrder.apply SortOrder.mask
  cases order.isDescending with
  | true => simp [Bytes.complement, Function.comp_def, Bytes.xor_full]
  | false => simp

end Sortable
end RecordBytes
