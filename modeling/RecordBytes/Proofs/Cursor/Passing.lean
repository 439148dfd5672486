import Mathlib
import RecordBytes.Cursor

/-!
# Passing over what can be read

A stretch may be passed over by a scan of its own, which looks at no more of it than it needs to find its end.
It goes alongside the scan that reads the stretch: they get to one place or fail alike, but for a content
that only the reading looks at and refuses.

Main results:

- `Scan.PassedBy.behind`, `Scan.PassedBy.bind`: stretches one behind the other.
- `Scan.PassedBy.check`: a reading that looks at the content in the end.
- `Scan.PassedBy.skip_of_read`: what can be read can be passed over, up to the same place.
- `Scan.PassedBy.error_of_skip`, `Scan.PassedBy.onContent_of_read`: what one of the two refuses.
-/

namespace RecordBytes.Scan

variable {α β γ : Type} {OnContent : Damage → Prop}

/-- The outcomes of reading a stretch and of passing over it: one place, one fault, or a fault of the reading
alone, on the content. -/
inductive Alongside (OnContent : Damage → Prop) :
    EStateM.Result Damage Cursor α → EStateM.Result Damage Cursor Unit → Prop
  | arrive {found : α} {after : Cursor} : Alongside OnContent (.ok found after) (.ok () after)
  | fail {damage : Damage} {after after' : Cursor} :
      Alongside OnContent (.error damage after) (.error damage after')
  | refuse {damage : Damage} {after after' : Cursor} (h : OnContent damage) :
      Alongside OnContent (.error damage after) (.ok () after')

/-- From every cursor, passing over goes alongside the reading. -/
def PassedBy (OnContent : Damage → Prop) (read : Scan α) (skip : Scan Unit) : Prop :=
  ∀ cursor, Alongside OnContent (read cursor) (skip cursor)

namespace PassedBy

/-- What is read and then left can be passed over so. -/
theorem discard (read : Scan α) : PassedBy OnContent read (Functor.discard read) := by
  intro cursor
  have hrun : Functor.discard read cursor = EStateM.map (fun _ => ()) read cursor := rfl
  rw [hrun, EStateM.map]
  cases read cursor with
  | ok found after => exact Alongside.arrive
  | error damage after => exact Alongside.fail

/-- What can be read can be passed over, up to the same place. -/
theorem skip_of_read {read : Scan α} {skip : Scan Unit} (h : PassedBy OnContent read skip)
    {cursor after : Cursor} {found : α} (hread : read cursor = .ok found after) : skip cursor = .ok () after := by
  have hboth := h cursor
  rw [hread] at hboth
  generalize skip cursor = passed at hboth
  cases hboth
  rfl

/-- What cannot be passed over cannot be read, for the same reason. -/
theorem error_of_skip {read : Scan α} {skip : Scan Unit} (h : PassedBy OnContent read skip)
    {cursor after : Cursor} {damage : Damage} (hskip : skip cursor = .error damage after) :
    ∃ after', read cursor = .error damage after' := by
  have hboth := h cursor
  rw [hskip] at hboth
  generalize read cursor = given at hboth ⊢
  cases hboth
  exact ⟨_, rfl⟩

/-- What is passed over but cannot be read is refused for its content. -/
theorem onContent_of_read {read : Scan α} {skip : Scan Unit} (h : PassedBy OnContent read skip)
    {cursor after stopped : Cursor} {damage : Damage} (hskip : skip cursor = .ok () after)
    (hread : read cursor = .error damage stopped) : OnContent damage := by
  have hboth := h cursor
  rw [hskip, hread] at hboth
  cases hboth with
  | refuse hdamage => exact hdamage

/-- A step that both take in front. -/
theorem behind (first : Scan α) {read : α → Scan β} {skip : α → Scan Unit}
    (h : ∀ found, PassedBy OnContent (read found) (skip found)) :
    PassedBy OnContent (first >>= read) (first >>= skip) := by
  intro cursor
  simp only [Bind.bind, EStateM.bind]
  cases first cursor with
  | ok found middle => exact h found middle
  | error damage middle => exact Alongside.fail

/-- A stretch without a content to refuse, and one behind it. -/
theorem bind {first : Scan α} {passed : Scan Unit} {read : α → Scan β} {skip : Scan Unit}
    (hfirst : PassedBy (fun _ => False) first passed) (h : ∀ found, PassedBy OnContent (read found) skip) :
    PassedBy OnContent (first >>= read) (passed >>= fun _ => skip) := by
  intro cursor
  have hboth := hfirst cursor
  simp only [Bind.bind, EStateM.bind]
  generalize first cursor = given at hboth
  generalize passed cursor = left at hboth
  cases hboth with
  | arrive => exact h _ _
  | fail => exact Alongside.fail
  | refuse hfalse => exact hfalse.elim

/-- A reading that looks at what it has found in the end, and takes it or refuses it. -/
theorem check {read : Scan α} {skip : Scan Unit} {next : α → Scan β} (h : PassedBy OnContent read skip)
    (hnext : ∀ found, (∃ value, next found = pure value) ∨
      ∃ damage, OnContent damage ∧ next found = throw damage) :
    PassedBy OnContent (read >>= next) skip := by
  intro cursor
  have hboth := h cursor
  simp only [Bind.bind, EStateM.bind]
  generalize read cursor = given at hboth
  generalize skip cursor = left at hboth
  cases hboth with
  | @arrive found after =>
    rcases hnext found with ⟨value, hvalue⟩ | ⟨damage, hdamage, hthrow⟩
    · simp only [hvalue]
      exact Alongside.arrive
    · simp only [hthrow]
      exact Alongside.refuse hdamage
  | fail => exact Alongside.fail
  | refuse hdamage => exact Alongside.refuse hdamage

/-- A reading that takes what it has found as it is. -/
theorem map {read : Scan α} {skip : Scan Unit} (h : PassedBy OnContent read skip) (convert : α → β) :
    PassedBy OnContent (read >>= fun found => pure (convert found)) skip :=
  h.check fun found => Or.inl ⟨convert found, rfl⟩

end PassedBy

/-! ## Primitive steps -/

theorem passedBy_take (count : Nat) (what : String) :
    PassedBy OnContent (take count what) (skip count what) := by
  intro cursor
  unfold take skip
  by_cases hshort : cursor.remaining < count
  · rw [if_pos hshort, if_pos hshort]
    exact Alongside.fail
  · rw [if_neg hshort, if_neg hshort]
    exact Alongside.arrive

theorem passedBy_number (count : Nat) (what : String) :
    PassedBy OnContent (number count what) (skip count what) :=
  (passedBy_take count what).map _

theorem passedBy_byte (what : String) : PassedBy OnContent (byte what) (skip 1 what) := by
  intro cursor
  unfold byte skip
  cases hunread : cursor.unread with
  | nil =>
    rw [if_pos (by simp [Cursor.remaining, hunread])]
    exact Alongside.fail
  | cons first rest =>
    rw [if_neg (by simp [Cursor.remaining, hunread])]
    exact Alongside.arrive

end RecordBytes.Scan
