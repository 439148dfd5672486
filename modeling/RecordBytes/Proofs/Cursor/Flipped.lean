import Mathlib
import RecordBytes.Cursor

/-!
# Reading through a mask

A scan never looks at a byte but through the mask of its cursor.  Flipping the same bits in every unread byte and
in the mask is therefore nothing that a scan could notice: it finds the same, moves as far, and fails alike.

Main results:

- `Scan.ThroughMask.bind`, `Scan.ThroughMask.complemented`: steps one behind the other, and with the mask flipped.
- `Scan.throughMask_byte`, `Scan.throughMask_take`, `Scan.throughMask_skip`: the primitive steps.
- `Scan.ThroughMask.start_complement`: a whole string under the full mask, and its complement without one.
-/

namespace RecordBytes

namespace Cursor

/-- The cursor at the same place, with some bits flipped both in the unread bytes and in the mask. -/
def flip (bits : UInt8) (cursor : Cursor) : Cursor :=
  ⟨cursor.position, cursor.unread.map (· ^^^ bits), cursor.mask ^^^ bits⟩

/-- A byte shows as before when the mask is flipped with it. -/
theorem xor_flip (byte mask bits : UInt8) : (byte ^^^ bits) ^^^ (mask ^^^ bits) = byte ^^^ mask := by
  rw [UInt8.xor_comm mask bits, UInt8.xor_assoc, ← UInt8.xor_assoc bits bits mask, UInt8.xor_self, UInt8.zero_xor]

@[simp]
theorem remaining_flip (bits : UInt8) (cursor : Cursor) : (cursor.flip bits).remaining = cursor.remaining := by
  simp [remaining, flip]

@[simp]
theorem advance_flip (bits : UInt8) (cursor : Cursor) (count : Nat) :
    (cursor.flip bits).advance count = (cursor.advance count).flip bits := by
  simp [advance, flip]

/-- Before a string under the full mask, a cursor is the one before the complement, flipped. -/
theorem start_complement (bytes : Bytes) : start bytes 0xFF = (start bytes.complement 0).flip 0xFF := by
  simp [start, flip, Bytes.complement, Function.comp_def, Bytes.xor_full]

end Cursor

namespace Scan

variable {α β : Type}

/-- What a step came to, at the flipped cursor. -/
def flipped (bits : UInt8) : EStateM.Result Damage Cursor α → EStateM.Result Damage Cursor α
  | .ok found after => .ok found (after.flip bits)
  | .error damage after => .error damage (after.flip bits)

/-- The scan looks at bytes only through the mask: whatever bits are flipped in both, it comes to the same. -/
def ThroughMask (scan : Scan α) : Prop :=
  ∀ bits cursor, scan (cursor.flip bits) = flipped bits (scan cursor)

namespace ThroughMask

theorem pure (found : α) : ThroughMask (Pure.pure found) :=
  fun _ _ => rfl

theorem throw (damage : Damage) : ThroughMask (MonadExcept.throw damage : Scan α) :=
  fun _ _ => rfl

theorem bind {scan : Scan α} {next : α → Scan β} (h : ThroughMask scan)
    (hnext : ∀ found, ThroughMask (next found)) : ThroughMask (scan >>= next) := by
  intro bits cursor
  simp only [Bind.bind, EStateM.bind, h bits cursor]
  cases scan cursor with
  | ok found after => exact hnext found bits after
  | error damage after => rfl

theorem map {scan : Scan α} (h : ThroughMask scan) (convert : α → β) :
    ThroughMask (scan >>= fun found => Pure.pure (convert found)) :=
  h.bind fun _ => pure _

theorem discard {scan : Scan α} (h : ThroughMask scan) : ThroughMask (Functor.discard scan) :=
  h.map fun _ => ()

/-- A complemented stretch is one under another mask. -/
theorem complemented {scan : Scan α} (h : ThroughMask scan) : ThroughMask (Scan.complemented scan) := by
  intro bits cursor
  have hcursor : ({ cursor.flip bits with mask := ~~~(cursor.flip bits).mask } : Cursor) =
      ({ cursor with mask := ~~~cursor.mask } : Cursor).flip bits := by
    simp [Cursor.flip, UInt8.not_xor]
  simp only [Scan.complemented, hcursor, h bits]
  cases scan { cursor with mask := ~~~cursor.mask } with
  | ok found after => rfl
  | error damage after => rfl

/-- Reading a string under the full mask is reading its complement without a mask. -/
theorem start_complement {scan : Scan α} (h : ThroughMask scan) (bytes : Bytes) :
    scan (Cursor.start bytes 0xFF) = flipped 0xFF (scan (Cursor.start bytes.complement 0)) := by
  rw [Cursor.start_complement]
  exact h _ _

end ThroughMask

/-! ## Primitive steps -/

theorem throughMask_ofExcept (outcome : Except Damage α) : ThroughMask (ofExcept outcome) := by
  cases outcome with
  | ok found => exact ThroughMask.pure found
  | error damage => exact ThroughMask.throw damage

theorem throughMask_byte (what : String) : ThroughMask (byte what) := by
  intro bits cursor
  rcases cursor with ⟨position, unread, mask⟩
  cases unread with
  | nil => rfl
  | cons first rest => simp [byte, Cursor.flip, flipped, Cursor.xor_flip, Cursor.advance]

theorem throughMask_take (count : Nat) (what : String) : ThroughMask (take count what) := by
  intro bits cursor
  have hfront : ((cursor.flip bits).unread.take count).map (· ^^^ (cursor.flip bits).mask) =
      (cursor.unread.take count).map (· ^^^ cursor.mask) := by
    simp [Cursor.flip, ← List.map_take, Cursor.xor_flip]
  simp only [take, Cursor.remaining_flip, Cursor.advance_flip, hfront]
  split <;> rfl

theorem throughMask_number (count : Nat) (what : String) : ThroughMask (number count what) :=
  (throughMask_take count what).map _

theorem throughMask_skip (count : Nat) (what : String) : ThroughMask (skip count what) := by
  intro bits cursor
  simp only [skip, Cursor.remaining_flip, Cursor.advance_flip]
  split <;> rfl

end Scan
end RecordBytes
