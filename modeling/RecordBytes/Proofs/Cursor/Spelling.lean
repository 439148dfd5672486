import Mathlib
import RecordBytes.Cursor

/-!
# What the bytes that a step moves over spell

A step of reading moves over some bytes and takes them, through its mask, as a spelling of what it finds.  A
relation between findings and spellings holds of a step when every run of it does so, and steps one behind the
other spell one behind the other.

Main results:

- `Spells.bind`, `Spells.imp`: a step behind a step, and a weaker relation.
- `Scan.spells_byte`, `Scan.spells_take`, `Scan.spells_number`: the primitive steps.
-/

namespace RecordBytes

/-- Whatever bytes are next, those that the step moves over spell what it finds; the mask stays. -/
def Spells {ε α : Type} (Spelling : α → Bytes → Prop) (step : EStateM ε Cursor α) : Prop :=
  ∀ ⦃cursor after : Cursor⦄ ⦃found : α⦄, step cursor = .ok found after →
    ∃ moved, cursor.unread = moved ++ after.unread ∧ after.mask = cursor.mask ∧
      Spelling found (moved.map (· ^^^ cursor.mask))

namespace Spells

variable {ε α β : Type} {Spelling Weaker : α → Bytes → Prop}

theorem pure {found : α} (h : Spelling found []) : Spells Spelling (Pure.pure found : EStateM ε Cursor α) := by
  rintro cursor after _ ⟨⟩
  exact ⟨[], rfl, rfl, h⟩

theorem throw (fault : ε) : Spells Spelling (MonadExcept.throw fault : EStateM ε Cursor α) := by
  rintro cursor after _ ⟨⟩

/-- A step behind a step spells behind what the first has spelled. -/
theorem bind {first : EStateM ε Cursor α} {next : α → EStateM ε Cursor β} {Later : β → Bytes → Prop}
    (h : Spells Spelling first)
    (hnext : ∀ found front, Spelling found front → Spells (fun later back => Later later (front ++ back)) (next found)) :
    Spells Later (first >>= next) := by
  intro cursor after found hrun
  simp only [Bind.bind, EStateM.bind] at hrun
  cases hfirst : first cursor with
  | error fault middle => simp [hfirst] at hrun
  | ok given middle =>
    rw [hfirst] at hrun
    rcases h hfirst with ⟨front, hfront, hmask, hspelled⟩
    rcases hnext given _ hspelled hrun with ⟨back, hback, hmask', hlater⟩
    refine ⟨front ++ back, ?_, hmask'.trans hmask, ?_⟩
    · rw [hfront, hback, List.append_assoc]
    · rw [hmask] at hlater
      rwa [List.map_append]

/-- A step that only takes what was found as something else spells that. -/
theorem map {first : EStateM ε Cursor α} {convert : α → β} {Later : β → Bytes → Prop}
    (h : Spells Spelling first) (hlater : ∀ found front, Spelling found front → Later (convert found) front) :
    Spells Later (first >>= fun found => Pure.pure (convert found)) := by
  refine h.bind fun found front hfront => pure ?_
  rw [List.append_nil]
  exact hlater found front hfront

theorem imp {step : EStateM ε Cursor α} (h : Spells Spelling step)
    (himp : ∀ found moved, Spelling found moved → Weaker found moved) : Spells Weaker step := by
  intro cursor after found hrun
  rcases h hrun with ⟨moved, hunread, hmask, hspelled⟩
  exact ⟨moved, hunread, hmask, himp _ _ hspelled⟩

end Spells

namespace Scan

variable {α : Type} {Spelling : α → Bytes → Prop}

theorem spells_ofExcept {outcome : Except Damage α} (h : ∀ found, outcome = .ok found → Spelling found []) :
    Spells Spelling (ofExcept outcome) := by
  cases outcome with
  | ok found => exact Spells.pure (h found rfl)
  | error damage => exact Spells.throw damage

/-- One byte spells itself. -/
theorem spells_byte (what : String) : Spells (fun found moved => moved = [found]) (byte what) := by
  intro cursor after found hrun
  unfold byte at hrun
  split at hrun
  · cases hrun
  · next first rest hunread =>
    cases hrun
    exact ⟨[first], by simp [Cursor.advance, hunread], rfl, rfl⟩

/-- As many bytes as were asked for spell themselves. -/
theorem spells_take (count : Nat) (what : String) :
    Spells (fun found moved => moved = found ∧ moved.length = count) (take count what) := by
  intro cursor after found hrun
  unfold take at hrun
  split at hrun
  · cases hrun
  · next hlong =>
    cases hrun
    refine ⟨cursor.unread.take count, (List.take_append_drop _ _).symm, rfl, rfl, ?_⟩
    rw [List.length_map]
    exact List.length_take_of_le (Nat.le_of_not_lt hlong)

/-- As many bytes as were asked for spell the number that they are to base 256. -/
theorem spells_number (count : Nat) (what : String) :
    Spells (fun number moved => moved.length = count ∧ BigEndian.toNat moved = number) (number count what) := by
  refine (spells_take count what).map ?_
  rintro found moved ⟨rfl, hlength⟩
  exact ⟨hlength, rfl⟩

end Scan
end RecordBytes
