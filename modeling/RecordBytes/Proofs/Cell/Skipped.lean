import Mathlib
import RecordBytes.Proofs.Compact.Scanning
import RecordBytes.Proofs.Sortable.Scanning

/-!
# Passing over a cell

Passing over a cell is reading it without the checks of its content.  Both find the same end of a cell, and both
refuse a cell whose end cannot be found: one that is cut off, or one whose markers, lengths, escapes or digits are
none.  Only what a look at the content shows is left to the reading.

Main results:

- `Scan.PassedBy.spares`: what it means for passing over to go alongside reading.
- `Scan.spares_cells`: cells of both layouts, from any cursor.
-/

namespace RecordBytes

/-- Damage to what shows where a cell ends: bytes that are missing, markers and lengths that are none, and what is
no escaped string or no digit string. -/
inductive Damage.OnShape : Damage → Prop
  | endOfInput (what : String) : OnShape (.endOfInput what)
  | nullMarker (byte : UInt8) : OnShape (.nullMarker byte)
  | presenceByte (byte : UInt8) : OnShape (.presenceByte byte)
  | lengthMarker (byte : UInt8) : OnShape (.lengthMarker byte)
  | nullSentinel (kind : Kind) : OnShape (.nullSentinel kind)
  | unterminated : OnShape .unterminated
  | escape (byte : UInt8) : OnShape (.escape byte)
  | decimalMarker (byte : UInt8) : OnShape (.decimalMarker byte)
  | decimalDigit (byte : UInt8) : OnShape (.decimalDigit byte)
  | noDigits : OnShape .noDigits
  | exponentOutOfRange : OnShape .exponentOutOfRange

namespace Scan

variable {α : Type} {OnContent : Damage → Prop} {read : Scan α} {skip : Scan Unit}

/-- At a cursor, passing over a stretch is reading it without the checks of its content. -/
structure Spares (OnContent : Damage → Prop) (read : Scan α) (skip : Scan Unit) (cursor : Cursor) : Prop where
  arrives : ∀ found after, read cursor = .ok found after → skip cursor = .ok () after
  fails : ∀ damage stopped, skip cursor = .error damage stopped → ∃ stopped', read cursor = .error damage stopped'
  spares : ∀ after damage stopped, skip cursor = .ok () after → read cursor = .error damage stopped →
    OnContent damage
  judges : ∀ damage, damage.OnShape →
    ((∃ stopped, skip cursor = .error damage stopped) ↔ ∃ stopped, read cursor = .error damage stopped)

/-- A stretch that is passed over alongside the reading is read without the checks of its content. -/
theorem PassedBy.spares (h : PassedBy OnContent read skip) (hshape : ∀ damage, damage.OnShape → ¬ OnContent damage)
    (cursor : Cursor) : Spares OnContent read skip cursor where
  arrives := fun _ _ hread => h.skip_of_read hread
  fails := fun _ _ hskip => h.error_of_skip hskip
  spares := fun _ _ _ hskip hread => h.onContent_of_read hskip hread
  judges := by
    intro damage hdamage
    constructor
    · rintro ⟨stopped, hskip⟩
      exact h.error_of_skip hskip
    · rintro ⟨stopped, hread⟩
      cases hskip : skip cursor with
      | ok found after => exact (hshape damage hdamage (h.onContent_of_read hskip hread)).elim
      | error other stopped' =>
        rcases h.error_of_skip hskip with ⟨stopped'', hother⟩
        rw [hread] at hother
        cases hother
        exact ⟨stopped', rfl⟩

/-- From any cursor, under any mask, passing over a cell of any kind is reading it without the checks of its
content, in the sortable and in the compact layout. -/
theorem spares_cells (kind : Kind) (nullable : Bool) (cursor : Cursor) :
    Spares (Sortable.ContentDamage kind) (Sortable.read kind nullable) (Sortable.skip kind nullable) cursor ∧
    Spares (Compact.ContentDamage kind) (Compact.read kind nullable) (Compact.skip kind nullable) cursor := by
  have hsortable : ∀ damage : Damage, damage.OnShape → ¬ Sortable.ContentDamage kind damage := by
    intro damage hshape hcontent
    cases hcontent <;> cases hshape
  have hcompact : ∀ damage : Damage, damage.OnShape → ¬ Compact.ContentDamage kind damage := by
    intro damage hshape hcontent
    cases hcontent <;> cases hshape
  exact ⟨(Sortable.passedBy_skip kind nullable).spares hsortable cursor,
    (Compact.passedBy_skip kind nullable).spares hcompact cursor⟩

/-- A byte of two is passed over as a Boolean, and not read as one. -/
example : Sortable.skip .bool false (Cursor.start [2] 0) = .ok () ⟨1, [], 0⟩ ∧
    Sortable.read .bool false (Cursor.start [2] 0) = .error (.boolByte 2) ⟨1, [], 0⟩ := ⟨rfl, rfl⟩

end Scan
end RecordBytes
