import Mathlib
import RecordBytes.Cursor

/-!
# What a step of reading can find

A reader accepts many forms that no writer makes, but what it finds is limited all the same: by the number of
bytes that it asks for, and by the checks that it makes.  A property of what a step finds holds whatever bytes
are next.

Main results:

- `Finds.bind`: a step behind a step, which knows what the first has found.
- `Finds.complemented`: a complemented stretch finds nothing else.
- `Scan.finds_take`, `Scan.finds_number`: the primitive steps.
-/

namespace RecordBytes

/-- Whatever bytes are next, what the step finds has the property. -/
def Finds {ε α : Type} (Holds : α → Prop) (step : EStateM ε Cursor α) : Prop :=
  ∀ ⦃cursor after : Cursor⦄ ⦃found : α⦄, step cursor = .ok found after → Holds found

namespace Finds

variable {ε α β : Type} {Holds Sought : α → Prop}

/-- What every finding has, those of a step have. -/
theorem of_forall {step : EStateM ε Cursor α} (h : ∀ found, Holds found) : Finds Holds step := by
  intro cursor after found _
  exact h found

theorem pure {found : α} (h : Holds found) : Finds Holds (Pure.pure found : EStateM ε Cursor α) := by
  rintro cursor after _ ⟨⟩
  exact h

theorem throw (fault : ε) : Finds Holds (MonadExcept.throw fault : EStateM ε Cursor α) := by
  rintro cursor after _ ⟨⟩

/-- A step behind a step knows what the first has found. -/
theorem bind {first : EStateM ε Cursor α} {next : α → EStateM ε Cursor β} {Later : β → Prop}
    (h : Finds Holds first) (hnext : ∀ found, Holds found → Finds Later (next found)) :
    Finds Later (first >>= next) := by
  intro cursor after found hrun
  simp only [Bind.bind, EStateM.bind] at hrun
  cases hfirst : first cursor with
  | error fault middle => simp [hfirst] at hrun
  | ok given middle =>
    rw [hfirst] at hrun
    exact hnext given (h hfirst) hrun

/-- A property that follows from another one. -/
theorem imp {step : EStateM ε Cursor α} (h : Finds Holds step) (himp : ∀ found, Holds found → Sought found) :
    Finds Sought step := by
  intro cursor after found hrun
  exact himp found (h hrun)

/-- A complemented stretch finds what the stretch can find. -/
theorem complemented {scan : Scan α} (h : Finds Holds scan) : Finds Holds (Scan.complemented scan) := by
  intro cursor after found hrun
  unfold Scan.complemented at hrun
  cases hscan : scan { cursor with mask := ~~~cursor.mask } with
  | error damage middle => simp [hscan] at hrun
  | ok given middle =>
    rw [hscan] at hrun
    cases hrun
    exact h hscan

end Finds

namespace Scan

variable {α : Type} {Holds : α → Prop}

/-- An outcome that needs no reading. -/
theorem finds_ofExcept {outcome : Except Damage α} (h : ∀ found, outcome = .ok found → Holds found) :
    Finds Holds (ofExcept outcome) := by
  cases outcome with
  | ok found => exact Finds.pure (h found rfl)
  | error damage => exact Finds.throw damage

/-- As many bytes as were asked for. -/
theorem finds_take (count : Nat) (what : String) :
    Finds (fun found : Bytes => found.length = count) (take count what) := by
  intro cursor after found hrun
  unfold take at hrun
  split at hrun
  · cases hrun
  · next hlong =>
    cases hrun
    rw [List.length_map]
    exact List.length_take_of_le (Nat.le_of_not_lt hlong)

/-- A number that the bytes can hold. -/
theorem finds_number (count : Nat) (what : String) :
    Finds (fun found => found < 256 ^ count) (number count what) := by
  unfold number
  refine Finds.bind (finds_take count what) ?_
  intro bytes hlength
  apply Finds.pure
  rw [← hlength]
  exact BigEndian.toNat_lt bytes

end Scan
end RecordBytes
