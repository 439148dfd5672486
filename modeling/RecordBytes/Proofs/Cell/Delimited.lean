import Mathlib
import RecordBytes.Proofs.Compact.Appended
import RecordBytes.Proofs.Compact.Reading
import RecordBytes.Proofs.Sortable.Appended
import RecordBytes.Proofs.Sortable.Reading

/-!
# Cells that show their own end

A cell can stand between anything.  Written into a buffer it is put behind what is there, and read from the front
of some bytes it is told apart from what follows it, be that the beginning of another escape, more digits or more
bytes of a length.

Main results:

- `Sortable.decode_append`, `Compact.decode_append`: a written cell in front of any bytes.
- `Delimits.of_write`: cells that show their own end in both layouts.
-/

namespace RecordBytes

/-- What a cell of some bytes is to its writer and its reader: the writer puts it behind any buffer as it is, and
the reader finds one value in it, whatever follows, and stops at its end. -/
structure Delimits (write : Writing) (decode : Bytes → Except Damage (Value × Nat)) (cell : Bytes)
    (found : Value) : Prop where
  appended : ∀ buffer, write buffer = .ok () (buffer ++ cell)
  decoded : ∀ trailing, decode (cell ++ trailing) = .ok (found, cell.length)

/-! ## Reading in front of other bytes -/

/-- A written cell is read back, whatever follows it. -/
theorem Sortable.decode_append {kind : Kind} {nullable : Bool} {order : SortOrder} {value : Value}
    {cell : Bytes} (h : encode kind nullable order value = .ok cell) (trailing : Bytes) :
    decode kind nullable order (cell ++ trailing) = .ok (value.restored, cell.length) := by
  have hread := read_encode h 0 trailing
  rw [Nat.zero_add] at hread
  simp only [decode, Scan.runOn, Cursor.start, hread]
  rfl

/-- A written cell is read back, whatever follows it. -/
theorem Compact.decode_append {kind : Kind} {nullable : Bool} {value : Value} {cell : Bytes}
    (h : encode kind nullable value = .ok cell) (trailing : Bytes) :
    decode kind nullable (cell ++ trailing) = .ok (value, cell.length) := by
  have hshown : (Cursor.start (cell ++ trailing) 0).shown = cell ++ trailing := by
    simp [Cursor.shown, Cursor.start]
  have hread := yields_read h _ _ hshown
  have hposition : ((Cursor.start (cell ++ trailing) 0).advance cell.length).position = cell.length := by
    simp [Cursor.advance, Cursor.start]
  simp only [decode, Scan.runOn, hread, Outcome.ok_bind, hposition]
  rfl

/-! ## Both layouts -/

/-- Whatever is written, as a sortable cell or as a compact one, shows its own end.  A sortable cell is read back as
the value up to NaNs and equal decimals, a compact one as exactly the value. -/
theorem Delimits.of_write (kind : Kind) (nullable : Bool) (order : SortOrder) (value : Value)
    (buffer after : Bytes) :
    (Sortable.write kind nullable order value buffer = .ok () after →
      ∃ cell found, after = buffer ++ cell ∧ Value.Restores value found ∧
        Delimits (Sortable.write kind nullable order value) (Sortable.decode kind nullable order) cell found) ∧
    (Compact.write kind nullable value buffer = .ok () after →
      ∃ cell, after = buffer ++ cell ∧
        Delimits (Compact.write kind nullable value) (Compact.decode kind nullable) cell value) := by
  constructor
  · intro hwrite
    have happends := Sortable.appends_write kind nullable order value
    rcases happends.of_eq_ok hwrite with ⟨cell, hcell, hafter⟩
    rw [hcell] at happends
    exact ⟨cell, value.restored, hafter, Sortable.restores hcell, happends.eq_ok, Sortable.decode_append hcell⟩
  · intro hwrite
    have happends := Compact.appends_write kind nullable value
    rcases happends.of_eq_ok hwrite with ⟨cell, hcell, hafter⟩
    rw [hcell] at happends
    exact ⟨cell, hafter, happends.eq_ok, Compact.decode_append hcell⟩

/-- A negative decimal in a sortable cell that sorts downward, where the digits are complemented twice, and in a
compact one. -/
theorem Delimits.of_write_negative :
    (∃ found, Value.Restores (.of .decimal ⟨-120, 1⟩) found ∧ ∀ trailing,
      Sortable.decode .decimal true .descending
        ([0xFE, 0x80, 0x80, 0, 0, 0, 0, 0, 0, 2, 2, 3, 0] ++ trailing) = .ok (found, 13)) ∧
    ∀ trailing, Compact.decode .decimal true ([1, 0x88, 0, 0, 0, 1] ++ trailing) =
      .ok (.of .decimal ⟨-120, 1⟩, 6) := by
  have hsortable : Sortable.write .decimal true .descending (.of .decimal ⟨-120, 1⟩) [7] =
      .ok () ([7] ++ [0xFE, 0x80, 0x80, 0, 0, 0, 0, 0, 0, 2, 2, 3, 0]) := by
    have hdigits : Digits.lowFirst 120 = [0, 2, 1] := by simp [Digits.lowFirst]
    have hcount : Digits.count (-120 : Int).natAbs = 3 := by simp [Digits.count, hdigits]
    have hexponent : (⟨-120, 1⟩ : Decimal).exponent? = some 2 := by
      simp only [Decimal.exponent?, hcount]
      rfl
    have hsignificant : Digits.significant (-120 : Int).natAbs = [1, 2] := by
      simp [Digits.significant, hdigits]
    have hcell : Sortable.encode .decimal true .descending (.of .decimal ⟨-120, 1⟩) =
        .ok [0xFE, 0x80, 0x80, 0, 0, 0, 0, 0, 0, 2, 2, 3, 0] := by
      simp only [Sortable.encode, Sortable.encodeUpward, Value.content?_of, Sortable.encodeContent,
        SortableDecimal.encode, hexponent, hsignificant]
      rfl
    have happends := Sortable.appends_write .decimal true .descending (.of .decimal ⟨-120, 1⟩)
    rw [hcell] at happends
    exact happends.eq_ok [7]
  have hcompact : Compact.write .decimal true (.of .decimal ⟨-120, 1⟩) [7] =
      .ok () ([7] ++ [1, 0x88, 0, 0, 0, 1]) := by
    rfl
  constructor
  · rcases (Delimits.of_write .decimal true .descending (.of .decimal ⟨-120, 1⟩) _ _).1 hsortable with
      ⟨cell, found, hcell, hrestores, hdelimits⟩
    cases List.append_cancel_left hcell
    exact ⟨found, hrestores, hdelimits.decoded⟩
  · rcases (Delimits.of_write .decimal true .descending (.of .decimal ⟨-120, 1⟩) _ _).2 hcompact with
      ⟨cell, hcell, hdelimits⟩
    cases List.append_cancel_left hcell
    exact hdelimits.decoded

end RecordBytes
