import Mathlib
import RecordBytes.Cursor

/-!
# Steps that keep to the bytes they move over

A step of reading that succeeds looks only at the bytes that it moves over: with any other bytes behind them it
finds the same and stops at the same place.  A form that says itself where it ends can so be read before it is
known where the bytes that it stands in end.  Beside that, a reader relies on how few bytes a step may move
over and on what a step fails with.

Main results:

- `Confined.ahead`: more bytes behind a step.
- `Confined.bind`: a step behind a step.
- `Confined.weaken`, `Confined.convert`, `Scan.Confined.complemented`: fewer bytes asked for, other faults, and a
  complemented stretch.
- `Scan.confined_byte`, `Scan.confined_take`, `Scan.confined_number`: the primitive steps.
-/

namespace RecordBytes

/-- The cursor at the same place in front of other bytes. -/
def Cursor.facing (cursor : Cursor) (unread : Bytes) : Cursor :=
  { cursor with unread := unread }

@[simp]
theorem Cursor.unread_facing (cursor : Cursor) (unread : Bytes) :
    (cursor.facing unread).unread = unread := rfl

@[simp]
theorem Cursor.facing_start (bytes : Bytes) (mask : UInt8) (unread : Bytes) :
    (Cursor.start bytes mask).facing unread = Cursor.start unread mask := rfl

@[simp]
theorem Cursor.facing_facing (cursor : Cursor) (first second : Bytes) :
    (cursor.facing first).facing second = cursor.facing second := rfl

@[simp]
theorem Cursor.facing_self (cursor : Cursor) : cursor.facing cursor.unread = cursor := rfl

/-- A step that keeps to the bytes it moves over: `least` of them at least when it succeeds, and a fault that
`Blames` allows when it fails. -/
structure Confined {ε α : Type} (Blames : ε → Prop) (least : Nat) (step : EStateM ε Cursor α) : Prop where
  /-- The step moves over some bytes, and finds what it does whatever is behind them. -/
  moves : ∀ {cursor after : Cursor} {found : α}, step cursor = .ok found after →
    ∃ moved, cursor.unread = moved ++ after.unread ∧ least ≤ moved.length ∧
      ∀ behind, step (cursor.facing (moved ++ behind)) = .ok found (after.facing behind)
  blames : ∀ {cursor after : Cursor} {fault : ε}, step cursor = .error fault after → Blames fault

namespace Confined

variable {ε α β : Type} {Blames : ε → Prop} {least : Nat}

/-- What a step finds, it finds whatever more bytes are behind. -/
theorem ahead {step : EStateM ε Cursor α} (h : Confined Blames least step) {cursor after : Cursor} {found : α}
    (behind : Bytes) (hrun : step cursor = .ok found after) :
    step (cursor.facing (cursor.unread ++ behind)) = .ok found (after.facing (after.unread ++ behind)) := by
  rcases h.moves hrun with ⟨moved, hunread, -, hmoved⟩
  rw [hunread, List.append_assoc]
  exact hmoved _

theorem pure (found : α) : Confined Blames 0 (Pure.pure found : EStateM ε Cursor α) where
  moves := by
    rintro cursor after _ ⟨⟩
    exact ⟨[], rfl, Nat.le_refl _, fun behind => rfl⟩
  blames := by
    rintro cursor after fault ⟨⟩

/-- A failure moves over nothing, so it may ask for any number of bytes. -/
theorem throw {fault : ε} (h : Blames fault) :
    Confined Blames least (MonadExcept.throw fault : EStateM ε Cursor α) where
  moves := by
    rintro cursor after _ ⟨⟩
  blames := by
    rintro cursor after _ ⟨⟩
    exact h

/-- A step behind a step moves over the bytes of both. -/
theorem bind {first : EStateM ε Cursor α} {next : α → EStateM ε Cursor β} {more : Nat}
    (h : Confined Blames least first) (hnext : ∀ found, Confined Blames more (next found)) :
    Confined Blames (least + more) (first >>= next) where
  moves := by
    intro cursor after found hrun
    simp only [Bind.bind, EStateM.bind] at hrun ⊢
    cases hfirst : first cursor with
    | error fault middle => simp [hfirst] at hrun
    | ok given middle =>
      rw [hfirst] at hrun
      rcases h.moves hfirst with ⟨front, hfront, hleast, hagain⟩
      rcases (hnext given).moves hrun with ⟨back, hback, hmore, hnextAgain⟩
      refine ⟨front ++ back, ?_, ?_, ?_⟩
      · rw [hfront, hback, List.append_assoc]
      · rw [List.length_append]
        exact Nat.add_le_add hleast hmore
      · intro behind
        rw [List.append_assoc, hagain]
        exact hnextAgain behind
  blames := by
    intro cursor after fault hrun
    simp only [Bind.bind, EStateM.bind] at hrun
    cases hfirst : first cursor with
    | error fault' middle =>
      rw [hfirst] at hrun
      cases hrun
      exact h.blames hfirst
    | ok given middle =>
      rw [hfirst] at hrun
      exact (hnext given).blames hrun

/-- A step that moves over some bytes moves over any smaller number of them. -/
theorem weaken {step : EStateM ε Cursor α} {fewer : Nat} (h : Confined Blames least step)
    (hle : fewer ≤ least) : Confined Blames fewer step where
  moves := by
    intro cursor after found hrun
    rcases h.moves hrun with ⟨moved, hunread, hleast, hagain⟩
    exact ⟨moved, hunread, Nat.le_trans hle hleast, hagain⟩
  blames := h.blames

/-- A step whose last part needs no more bytes. -/
theorem bind_free {first : EStateM ε Cursor α} {next : α → EStateM ε Cursor β}
    (h : Confined Blames least first) (hnext : ∀ found, Confined Blames 0 (next found)) :
    Confined Blames least (first >>= next) :=
  h.bind hnext

/-- A step that only gives another fault where the given one fails. -/
theorem convert {ε' : Type} {Blames' : ε' → Prop} {step : EStateM ε Cursor α} {step' : EStateM ε' Cursor α}
    (h : Confined Blames least step) {convert : ε → ε'}
    (hstep : ∀ cursor, step' cursor =
      match step cursor with
      | .ok found after => .ok found after
      | .error fault after => .error (convert fault) after)
    (hblames : ∀ fault, Blames fault → Blames' (convert fault)) : Confined Blames' least step' where
  moves := by
    intro cursor after found hrun
    rw [hstep] at hrun
    cases hgiven : step cursor with
    | error fault middle => simp [hgiven] at hrun
    | ok given middle =>
      rw [hgiven] at hrun
      cases hrun
      rcases h.moves hgiven with ⟨moved, hunread, hleast, hagain⟩
      exact ⟨moved, hunread, hleast, fun behind => by rw [hstep, hagain]⟩
  blames := by
    intro cursor after fault hrun
    rw [hstep] at hrun
    cases hgiven : step cursor with
    | ok given middle => simp [hgiven] at hrun
    | error fault' middle =>
      rw [hgiven] at hrun
      cases hrun
      exact hblames fault' (h.blames hgiven)

end Confined

/-- Damage that is no mismatch of generations. -/
def Damage.IsPlain (damage : Damage) : Prop :=
  damage.generations = none

namespace Scan

variable {α β : Type} {least : Nat}

/-- A scan that keeps to the bytes it moves over, and finds nothing but plain damage. -/
abbrev Confined (least : Nat) (scan : Scan α) : Prop :=
  RecordBytes.Confined Damage.IsPlain least scan

/-- A complemented stretch keeps to its bytes as the stretch does. -/
theorem Confined.complemented {scan : Scan α} (h : Confined least scan) :
    Confined least (Scan.complemented scan) where
  moves := by
    intro cursor after found hrun
    unfold Scan.complemented at hrun ⊢
    cases hscan : scan { cursor with mask := ~~~cursor.mask } with
    | error damage middle => simp [hscan] at hrun
    | ok given middle =>
      rw [hscan] at hrun
      cases hrun
      rcases h.moves hscan with ⟨moved, hunread, hleast, hagain⟩
      refine ⟨moved, hunread, hleast, ?_⟩
      intro behind
      have hflipped : scan { cursor.facing (moved ++ behind) with
          mask := ~~~(cursor.facing (moved ++ behind)).mask } = .ok found (middle.facing behind) :=
        hagain behind
      rw [hflipped]
      rfl
  blames := by
    intro cursor after damage hrun
    unfold Scan.complemented at hrun
    cases hscan : scan { cursor with mask := ~~~cursor.mask } with
    | error damage' middle =>
      rw [hscan] at hrun
      cases hrun
      exact h.blames hscan
    | ok given middle => simp [hscan] at hrun

/-- An outcome that needs no reading, where it fails with plain damage only. -/
theorem confined_ofExcept {outcome : Except Damage α}
    (h : ∀ damage, outcome = .error damage → damage.IsPlain) : Confined 0 (ofExcept outcome) := by
  cases outcome with
  | ok found => exact Confined.pure found
  | error damage => exact Confined.throw (h damage rfl)

theorem confined_byte (what : String) : Confined 1 (byte what) where
  moves := by
    intro cursor after found hrun
    unfold byte at hrun ⊢
    cases hunread : cursor.unread with
    | nil => simp [hunread] at hrun
    | cons first rest =>
      rw [hunread] at hrun
      cases hrun
      exact ⟨[first], by simp [Cursor.advance, hunread], Nat.le_refl _, fun behind => rfl⟩
  blames := by
    intro cursor after damage hrun
    unfold byte at hrun
    split at hrun
    · cases hrun
      rfl
    · cases hrun

theorem confined_take (count : Nat) (what : String) : Confined count (take count what) where
  moves := by
    intro cursor after found hrun
    unfold take at hrun ⊢
    by_cases hshort : cursor.remaining < count
    · simp [hshort] at hrun
    · rw [if_neg hshort] at hrun
      cases hrun
      have hcount : (cursor.unread.take count).length = count :=
        List.length_take_of_le (Nat.le_of_not_lt hshort)
      refine ⟨cursor.unread.take count, (List.take_append_drop _ _).symm, hcount.ge, ?_⟩
      intro behind
      have hlong : ¬ (cursor.facing (cursor.unread.take count ++ behind)).remaining < count := by
        rw [Cursor.remaining, Cursor.unread_facing, List.length_append, hcount]
        omega
      rw [if_neg hlong]
      simp [Cursor.facing, Cursor.advance, List.take_left' hcount, List.drop_left' hcount]
  blames := by
    intro cursor after damage hrun
    unfold take at hrun
    split at hrun
    · cases hrun
      rfl
    · cases hrun

theorem confined_number (count : Nat) (what : String) : Confined count (number count what) :=
  (confined_take count what).bind_free fun _ => Confined.pure _

end Scan
end RecordBytes
