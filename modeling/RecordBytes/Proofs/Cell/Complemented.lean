import Mathlib
import RecordBytes.Proofs.Sortable.Appended
import RecordBytes.Proofs.Sortable.Masked

/-!
# Downward cells as complements

A sortable cell that sorts downward is the complement of the upward one.  Reading does not complement it first: it
goes through a mask, to the same value or the same damage, after as many bytes.  Writing complements what it has
appended and nothing in front of it.  An order that is not stated is the upward one.

Main results:

- `Sortable.decode_descending`, `Sortable.passedOver_descending`: reading and passing over, on any bytes.
- `Sortable.write_descending`: writing, behind any buffer.
- `Sortable.descending_complements`: all of them.
-/

namespace RecordBytes

/-- What writing a cell comes to behind a buffer, and what writing its complement does: forms that are appended
and complement each other, or one refusal after one beginning. -/
inductive Writing.Complements (buffer : Bytes) :
    EStateM.Result Refusal Bytes Unit → EStateM.Result Refusal Bytes Unit → Prop
  | appended (form : Bytes) :
      Complements buffer (.ok () (buffer ++ form)) (.ok () (buffer ++ form.complement))
  | refused (refusal : Refusal) (begun : Bytes) :
      Complements buffer (.error refusal (buffer ++ begun)) (.error refusal (buffer ++ begun))

/-- What is complemented in place is complemented behind the buffer alone. -/
theorem Writing.Appends.complements {write : Writing} {outcome : Except Refusal Bytes} (h : Appends write outcome)
    (buffer : Bytes) : Complements buffer (write buffer) (Writing.complemented write buffer) := by
  cases h with
  | @whole form hform =>
    rw [complemented_of_ok (hform buffer), hform]
    exact Complements.appended form
  | @partly refusal begun hbegun =>
    rw [complemented_of_error (hbegun buffer), hbegun]
    exact Complements.refused refusal begun

namespace Sortable

/-- The number of bytes that are passed over as a cell at the front of some bytes. -/
def passedOver (kind : Kind) (nullable : Bool) (order : SortOrder) (bytes : Bytes) : Except Damage Nat := do
  let (_, cursor) ← (skip kind nullable).runOn bytes order.mask
  return cursor.position

/-- What a scan through the mask finds, and where it ends, is the same on the complement of the bytes. -/
theorem runOn_complement {α β : Type} {scan : Scan α} (h : scan.ThroughMask) (told : α → Nat → β) (bytes : Bytes) :
    (scan.runOn bytes 0xFF).map (fun run => told run.1 run.2.position) =
      (scan.runOn bytes.complement 0).map fun run => told run.1 run.2.position := by
  unfold Scan.runOn
  rw [h.start_complement bytes]
  cases scan (Cursor.start bytes.complement 0) with
  | ok found after => rfl
  | error damage after => rfl

/-- A downward cell is read as the complement of its bytes is read upward. -/
theorem decode_descending (kind : Kind) (nullable : Bool) (bytes : Bytes) :
    decode kind nullable .descending bytes = decode kind nullable .ascending bytes.complement :=
  runOn_complement (throughMask_read kind nullable) Prod.mk bytes

/-- A downward cell is passed over as the complement of its bytes is passed over upward. -/
theorem passedOver_descending (kind : Kind) (nullable : Bool) (bytes : Bytes) :
    passedOver kind nullable .descending bytes = passedOver kind nullable .ascending bytes.complement :=
  runOn_complement (throughMask_skip kind nullable) (fun _ position => position) bytes

/-- A downward cell is written as the complement of the upward one. -/
theorem write_descending (kind : Kind) (nullable : Bool) (value : Value) (buffer : Bytes) :
    Writing.Complements buffer (write kind nullable .ascending value buffer)
      (write kind nullable .descending value buffer) :=
  (appends_writeUpward kind nullable value).complements buffer

/-- On any bytes, a downward cell is read and passed over as the complement of the bytes is upward, and behind any
buffer it is written as the complement of the upward cell; an order that is not stated is the upward one. -/
theorem descending_complements (kind : Kind) (nullable : Bool) (bytes : Bytes) (value : Value) (buffer : Bytes) :
    decode kind nullable .descending bytes = decode kind nullable .ascending bytes.complement ∧
    passedOver kind nullable .descending bytes = passedOver kind nullable .ascending bytes.complement ∧
    Writing.Complements buffer (write kind nullable .ascending value buffer)
      (write kind nullable .descending value buffer) ∧
    decode kind nullable .unspecified bytes = decode kind nullable .ascending bytes ∧
    passedOver kind nullable .unspecified bytes = passedOver kind nullable .ascending bytes ∧
    write kind nullable .unspecified value buffer = write kind nullable .ascending value buffer :=
  ⟨decode_descending kind nullable bytes, passedOver_descending kind nullable bytes,
    write_descending kind nullable value buffer, rfl, rfl, rfl⟩

end Sortable
end RecordBytes
