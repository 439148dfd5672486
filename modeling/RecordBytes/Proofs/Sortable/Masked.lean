import Mathlib
import RecordBytes.Proofs.Cursor.Flipped
import RecordBytes.Sortable.Cell

/-!
# Sortable cells under a mask

A cell that sorts downward is read in place, under the full mask, and a negative decimal in it flips the mask once
more in the middle.  Whatever the bytes are, this is the same as reading their complement as a cell that sorts
upward: the two loops, over an escaped string and over digits, see each byte through the mask, and every other step
is a primitive one.

Main results:

- `Escaped.readFrom_flip`, `SortableDecimal.digitsFrom_flip`: the two loops.
- `Sortable.throughMask_read`, `Sortable.throughMask_skip`: cells, read and passed over.
-/

namespace RecordBytes

open Scan

/-! ## Escaped byte strings -/

namespace Escaped

theorem flipped_prepend (bits byte : UInt8) (result : EStateM.Result Damage Cursor Bytes) :
    flipped bits (prepend byte result) = prepend byte (flipped bits result) := by
  cases result <;> rfl

/-- The loop over an escaped string sees each byte through the mask. -/
theorem readFrom_flip (bits mask : UInt8) (position : Nat) (afterZero : Bool) (unread : Bytes) :
    readFrom (mask ^^^ bits) position afterZero (unread.map (· ^^^ bits)) =
      flipped bits (readFrom mask position afterZero unread) := by
  induction unread generalizing position afterZero with
  | nil => rfl
  | cons masked rest ih =>
    simp only [List.map_cons, readFrom, Cursor.xor_flip, ih]
    split
    · split
      · rfl
      split
      · rw [flipped_prepend]
      · rfl
    · split
      · rfl
      · rw [flipped_prepend]

theorem throughMask_read : ThroughMask read :=
  fun bits cursor => readFrom_flip bits cursor.mask cursor.position false cursor.unread

theorem throughMask_skip : ThroughMask skip := by
  intro bits cursor
  rw [skip_eq, skip_eq, throughMask_read bits cursor]
  cases read cursor <;> rfl

end Escaped

/-! ## Integers of any size -/

namespace Bigint

theorem throughMask_readHeader : ThroughMask readHeader :=
  (throughMask_number 4 _).map _

theorem throughMask_read : ThroughMask read := by
  refine throughMask_readHeader.bind ?_
  rintro ⟨negative, size⟩
  refine (throughMask_take size _).bind fun form => ?_
  dsimp only
  split
  · exact ThroughMask.throw _
  · exact ThroughMask.pure _

theorem throughMask_skip : ThroughMask skip := by
  refine throughMask_readHeader.bind ?_
  rintro ⟨negative, size⟩
  exact Scan.throughMask_skip size _

end Bigint

/-! ## Decimals -/

namespace SortableDecimal

theorem flipped_prepend (bits : UInt8) (digit : Nat) (result : EStateM.Result Damage Cursor (List Nat)) :
    flipped bits (prepend digit result) = prepend digit (flipped bits result) := by
  cases result <;> rfl

/-- The loop over digits sees each byte through the mask. -/
theorem digitsFrom_flip (bits mask : UInt8) (position : Nat) (unread : Bytes) :
    digitsFrom (mask ^^^ bits) position (unread.map (· ^^^ bits)) =
      flipped bits (digitsFrom mask position unread) := by
  induction unread generalizing position with
  | nil => rfl
  | cons masked rest ih =>
    simp only [List.map_cons, digitsFrom, Cursor.xor_flip, ih]
    split
    · rfl
    split
    · rw [flipped_prepend]
    · rfl

theorem throughMask_readDigits : ThroughMask readDigits :=
  fun bits cursor => digitsFrom_flip bits cursor.mask cursor.position cursor.unread

theorem throughMask_readMagnitude : ThroughMask readMagnitude :=
  (throughMask_number 8 _).bind fun _ => throughMask_readDigits.map _

theorem throughMask_read : ThroughMask read := by
  refine (throughMask_byte _).bind fun marker => ?_
  split
  · exact ThroughMask.pure _
  split
  · exact throughMask_readMagnitude.bind fun _ => throughMask_ofExcept _
  split
  -- The mask is flipped in the middle of the field, and flipped back behind it.
  · exact throughMask_readMagnitude.complemented.bind fun _ => throughMask_ofExcept _
  · exact ThroughMask.throw _

end SortableDecimal

/-! ## Cells -/

namespace Sortable

theorem throughMask_readContent (kind : Kind) : ThroughMask (readContent kind) := by
  cases kind with
  | bool =>
    refine (throughMask_byte _).bind fun byte => ?_
    split
    · exact ThroughMask.pure _
    split
    · exact ThroughMask.pure _
    · exact ThroughMask.throw _
  | char =>
    refine (throughMask_number 4 _).bind fun number => ?_
    split
    · exact ThroughMask.pure _
    · exact ThroughMask.throw _
  | signed width => exact (throughMask_number width.bytes _).map _
  | unsigned width => exact (throughMask_number width.bytes _).map _
  | float precision => exact (throughMask_number precision.bytes _).map _
  | text => exact Escaped.throughMask_read.bind fun _ => throughMask_ofExcept _
  | bytes => exact Escaped.throughMask_read
  | bigint => exact Bigint.throughMask_read
  | decimal => exact SortableDecimal.throughMask_read
  | lob => exact (throughMask_number 8 _).map _

theorem throughMask_skipContent (kind : Kind) : ThroughMask (skipContent kind) := by
  cases kind with
  | bool | char | signed | unsigned | float | lob => exact Scan.throughMask_skip _ _
  | text | bytes => exact Escaped.throughMask_skip
  | bigint => exact Bigint.throughMask_skip
  | decimal => exact SortableDecimal.throughMask_read.discard

theorem throughMask_readPresence (nullable : Bool) : ThroughMask (readPresence nullable) := by
  cases nullable with
  | false => exact ThroughMask.pure true
  | true =>
    refine (throughMask_byte _).bind fun marker => ?_
    split
    · exact ThroughMask.pure _
    split
    · exact ThroughMask.pure _
    · exact ThroughMask.throw _

theorem throughMask_read (kind : Kind) (nullable : Bool) : ThroughMask (read kind nullable) := by
  refine (throughMask_readPresence nullable).bind fun isPresent => ?_
  cases isPresent with
  | true => exact (throughMask_readContent kind).map _
  | false => exact ThroughMask.pure _

theorem throughMask_skip (kind : Kind) (nullable : Bool) : ThroughMask (skip kind nullable) := by
  refine (throughMask_readPresence nullable).bind fun isPresent => ?_
  cases isPresent with
  | true => exact throughMask_skipContent kind
  | false => exact ThroughMask.pure _

end Sortable
end RecordBytes
