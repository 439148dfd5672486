import Mathlib
import RecordBytes.Proofs.Writing.Appends
import RecordBytes.Sortable.Writing

/-!
# Sortable cells behind what is there

The pieces of a sortable cell, written one after another at the end of a buffer, are the cell as it is told
without a buffer, and where there is no cell they are refused for the same reason.  The two stretches that are
complemented where they stand, a cell in descending order and the magnitude of a negative decimal inside it,
may lie one in the other.

Main results:

- `Escaped.appends_write`, `Bigint.appends_write`, `SortableDecimal.appends_write`: contents of several pieces.
- `Sortable.appends_write`: a cell is appended.
-/

namespace RecordBytes

open Writing

/-- A byte string is appended in its escaped form. -/
theorem Escaped.appends_write (content : Bytes) : Appends (write content) (.ok (encode content)) := by
  induction content with
  | nil => exact (Appends.put [0]).bind (Appends.put [0])
  | cons byte rest ih =>
    unfold write encode
    by_cases hzero : byte = 0
    · simp only [if_pos hzero]
      exact ((Appends.put [0]).bind (Appends.put [1])).bind ih
    · simp only [if_neg hzero]
      exact (Appends.put [byte]).bind ih

/-- An integer is appended behind its header. -/
theorem Bigint.appends_write (number : Int) : Appends (write number) (encode number) := by
  simp only [write, encode, TwosComplement.length_ofInt]
  by_cases hlong : maxSize < TwosComplement.size number
  · rw [if_pos hlong, if_pos hlong]
    exact Appends.throw _
  · rw [if_neg hlong, if_neg hlong]
    exact (Appends.put _).bind (Appends.put _)

namespace SortableDecimal

theorem appends_writeMagnitude (exponent : Int64) (digits : List Nat) :
    Appends (writeMagnitude exponent digits) (.ok (encodeMagnitude exponent digits)) := by
  have hpieces := (Appends.put (BigEndian.ofNat 8 (exponentWord exponent).toNat)).bind
    ((Appends.put (digits.map fun digit => UInt8.ofNat (digit + 1))).bind (Appends.put [0]))
  unfold encodeMagnitude
  rw [List.append_assoc]
  exact hpieces

/-- A decimal is appended behind the marker of its sign. -/
theorem appends_write (decimal : Decimal) : Appends (write decimal) (encode decimal) := by
  unfold write encode
  by_cases hzero : decimal.unscaled = 0
  · rw [if_pos hzero, if_pos hzero]
    exact Appends.put _
  · rw [if_neg hzero, if_neg hzero]
    cases decimal.exponent? with
    | none => exact Appends.throw _
    | some exponent =>
      have hmagnitude := appends_writeMagnitude exponent (Digits.significant decimal.unscaled.natAbs)
      dsimp only
      by_cases hnegative : decimal.unscaled < 0
      · rw [if_pos hnegative, if_pos hnegative]
        exact hmagnitude.complemented.put_bind [negativeMarker]
      · rw [if_neg hnegative, if_neg hnegative]
        exact hmagnitude.put_bind [positiveMarker]

end SortableDecimal

namespace Sortable

/-- A content is appended in its sortable form. -/
theorem appends_writeContent (kind : Kind) (content : kind.Content) :
    Appends (writeContent kind content) (encodeContent kind content) := by
  cases kind with
  | text => exact Escaped.appends_write _
  | bytes => exact Escaped.appends_write content
  | bigint => exact Bigint.appends_write content
  | decimal => exact SortableDecimal.appends_write content
  | bool | char | signed | unsigned | float | lob => exact Appends.putForm (encodeContent _ content)

theorem appends_writeUpward (kind : Kind) (nullable : Bool) (value : Value) :
    Appends (writeUpward kind nullable value) (encodeUpward kind nullable value) := by
  cases value with
  | null =>
    cases nullable with
    | true => exact Appends.put [nullMarker]
    | false => exact Appends.throw _
  | of given content =>
    simp only [writeUpward, encodeUpward]
    cases (Value.of given content).content? kind with
    | none => exact (Appends.throw _).putIf_bind nullable [presentMarker]
    | some content => exact (appends_writeContent kind content).putIf_bind nullable [presentMarker]

/-- A cell is appended; one that sorts downward is complemented where it stands. -/
theorem appends_write (kind : Kind) (nullable : Bool) (order : SortOrder) (value : Value) :
    Appends (write kind nullable order value) (encode kind nullable order value) := by
  have hupward := appends_writeUpward kind nullable value
  unfold write encode
  by_cases hdescending : order.isDescending = true
  · have happly : order.apply = Bytes.complement := by
      funext upward
      rw [SortOrder.apply, if_pos hdescending]
    rw [if_pos hdescending, happly]
    exact hupward.complemented
  · have happly : order.apply = id := by
      funext upward
      rw [SortOrder.apply, if_neg hdescending, id]
    rw [if_neg hdescending, happly, id_map]
    exact hupward

end Sortable
end RecordBytes
