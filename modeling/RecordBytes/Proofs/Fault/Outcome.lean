import Mathlib
import RecordBytes.Fault.Basic

/-!
# Outcomes of a chain of steps

A chain of steps succeeds when every step does.  This module takes a successful chain apart, one step at a
time, and sees through the steps that only widen the kind of fault.

Main results:

- `Outcome.both_eq_ok`: two steps whose findings are put together.
- `Outcome.bind_eq_ok`: a chain succeeds when its first step does and the rest succeeds on what it found.
- `Outcome.lift_refusal_eq_ok`, `Outcome.lift_damage_eq_ok`: a refusal or damage is a fault, and success
  stays what it is.
- `inBounds_eq_ok`, `slice?_eq_some`: stretches that have to be there.
- `Outcome.FailsWith`: chains that fail only with faults of some kind.
- `Outcome.Refusing`: chains that fail only when the contract of a call was broken.
-/

namespace RecordBytes

namespace Outcome

variable {ε α β : Type}

@[simp]
theorem ok_bind (found : α) (next : α → Except ε β) : (Except.ok found >>= next) = next found := rfl

@[simp]
theorem error_bind (fault : ε) (next : α → Except ε β) :
    (Except.error fault >>= next) = Except.error fault := rfl

/-- A chain succeeds when its first step does and the rest succeeds on what it found. -/
theorem bind_eq_ok {first : Except ε α} {next : α → Except ε β} {found : β} :
    (first >>= next) = .ok found ↔ ∃ middle, first = .ok middle ∧ next middle = .ok found := by
  cases first with
  | error fault => simp
  | ok middle => simp

/-- A converted outcome is a success when the outcome is. -/
theorem map_eq_ok {first : Except ε α} {convert : α → β} {found : β} :
    (convert <$> first) = .ok found ↔ ∃ middle, first = .ok middle ∧ convert middle = found := by
  cases first with
  | error fault => simp [Functor.map, Except.map]
  | ok middle => simp [Functor.map, Except.map]

/-- Converting what is found neither adds nor removes a success. -/
theorem exists_map_eq_ok {first : Except ε α} {convert : α → β} :
    (∃ found, (convert <$> first) = .ok found) ↔ ∃ middle, first = .ok middle := by
  simp [map_eq_ok]

/-- A chain of two steps whose findings are put together. -/
theorem both_eq_ok {γ : Type} {first : Except ε α} {second : Except ε β} {combine : α → β → γ} {found : γ} :
    (do return combine (← first) (← second)) = Except.ok found ↔
      ∃ front back, first = .ok front ∧ second = .ok back ∧ combine front back = found := by
  cases first with
  | error fault => simp [Bind.bind, Except.bind]
  | ok front =>
    cases second with
    | error fault => simp [Bind.bind, Except.bind]
    | ok back => simp [Bind.bind, Except.bind, pure, Except.pure]

/-- A check in front of a chain, which refuses when it finds something, has found nothing. -/
theorem guard_eq_ok {check : Prop} [Decidable check] {fault : ε} {late : α → Except ε β}
    {rest : Except ε β} {found : β} :
    (if check then throw fault >>= late else rest) = .ok found ↔ ¬ check ∧ rest = .ok found := by
  by_cases h : check
  · simp [h, throw, throwThe, MonadExceptOf.throw]
  · simp [h]

/-- An outcome behind a check that refuses. -/
theorem ite_error_eq_ok {check : Prop} [Decidable check] {fault : ε} {rest : Except ε β} {found : β} :
    (if check then .error fault else rest) = .ok found ↔ ¬ check ∧ rest = .ok found := by
  by_cases h : check
  · simp [h]
  · simp [h]

/-- An outcome is a fault exactly when it is no success. -/
theorem exists_error_iff {outcome : Except ε α} :
    (∃ fault, outcome = .error fault) ↔ ¬ ∃ found, outcome = .ok found := by
  cases outcome with
  | error fault => simp
  | ok found => simp

@[simp]
theorem pure_eq_ok {found given : α} : (pure given : Except ε α) = .ok found ↔ given = found := by
  simp [pure, Except.pure]

@[simp]
theorem lift_refusal_ok (found : α) :
    (liftM (.ok found : Except Refusal α) : Except Fault α) = .ok found := rfl

@[simp]
theorem lift_damage_ok (found : α) :
    (liftM (.ok found : Except Damage α) : Except Fault α) = .ok found := rfl

/-- A refusal is a fault, and success stays what it is. -/
@[simp]
theorem lift_refusal_eq_ok {outcome : Except Refusal α} {found : α} :
    (liftM outcome : Except Fault α) = .ok found ↔ outcome = .ok found := by
  cases outcome with
  | error refusal => simp [liftM, monadLift, MonadLift.monadLift, Except.mapError]
  | ok given => simp [liftM, monadLift, MonadLift.monadLift, Except.mapError]

/-- Damage is a fault, and success stays what it is. -/
@[simp]
theorem lift_damage_eq_ok {outcome : Except Damage α} {found : α} :
    (liftM outcome : Except Fault α) = .ok found ↔ outcome = .ok found := by
  cases outcome with
  | error damage => simp [liftM, monadLift, MonadLift.monadLift, Except.mapError]
  | ok given => simp [liftM, monadLift, MonadLift.monadLift, Except.mapError]

end Outcome

/-- A stretch that has to be there is found when it is there. -/
@[simp]
theorem inBounds_eq_ok {α : Type} {stretch : Option α} {found : α} :
    inBounds stretch = .ok found ↔ stretch = some found := by
  cases stretch <;> simp [inBounds]

/-- A slice lies inside the list. -/
theorem slice?_eq_some {α : Type} {items found : List α} {start stop : Nat} :
    slice? items start stop = some found ↔
      (start ≤ stop ∧ stop ≤ items.length) ∧ (items.take stop).drop start = found := by
  unfold slice?
  split
  · next h => simp [h]
  · next h => simp [h]

/-! ## Kinds of faults -/

namespace Outcome

variable {ε α β : Type} {Blames : ε → Prop}

/-- An outcome that fails with nothing but the faults that `Blames` allows. -/
def FailsWith (Blames : ε → Prop) (outcome : Except ε α) : Prop :=
  ∀ fault, outcome = .error fault → Blames fault

theorem FailsWith.of_ok {outcome : Except ε α} {found : α} (h : outcome = .ok found) :
    FailsWith Blames outcome := by
  rintro fault hfault
  cases h.symm.trans hfault

theorem FailsWith.error {fault : ε} (h : Blames fault) : FailsWith Blames (.error fault : Except ε α) := by
  rintro _ ⟨⟩
  exact h

/-- A chain fails with the faults of its steps alone. -/
theorem FailsWith.bind {first : Except ε α} {next : α → Except ε β} (hfirst : FailsWith Blames first)
    (hnext : ∀ middle, first = .ok middle → FailsWith Blames (next middle)) :
    FailsWith Blames (first >>= next) := by
  cases first with
  | ok middle => exact hnext middle rfl
  | error fault =>
    rintro _ ⟨⟩
    exact hfirst fault rfl

end Outcome

/-! ## Refusals -/

namespace Outcome

variable {α β : Type}

/-- An outcome that fails for no other cause than that the contract of a call was broken. -/
def Refusing (outcome : Except Fault α) : Prop :=
  ∀ fault, outcome = .error fault → ∃ refusal, fault = .illegal refusal

theorem refusing_iff {outcome : Except Fault α} :
    Refusing outcome ↔ FailsWith (fun fault => ∃ refusal, fault = .illegal refusal) outcome := Iff.rfl

theorem Refusing.of_ok {outcome : Except Fault α} {found : α} (h : outcome = .ok found) : Refusing outcome :=
  refusing_iff.mpr (FailsWith.of_ok h)

/-- A refusal breaks the contract of a call. -/
theorem Refusing.lift (outcome : Except Refusal α) : Refusing (liftM outcome) := by
  intro fault hfault
  cases outcome with
  | ok found => cases hfault
  | error refusal =>
    cases hfault
    exact ⟨refusal, rfl⟩

theorem Refusing.throw (refusal : Refusal) : Refusing (throw (.illegal refusal) : Except Fault α) :=
  refusing_iff.mpr (FailsWith.error ⟨refusal, rfl⟩)

/-- A chain fails by refusal alone when each of its steps does. -/
theorem Refusing.bind {first : Except Fault α} {next : α → Except Fault β} (hfirst : Refusing first)
    (hnext : ∀ middle, first = .ok middle → Refusing (next middle)) : Refusing (first >>= next) :=
  refusing_iff.mpr (FailsWith.bind hfirst hnext)

theorem Refusing.map {outcome : Except Fault α} (h : Refusing outcome) (convert : α → β) :
    Refusing (convert <$> outcome) := by
  cases outcome with
  | ok found => exact Refusing.of_ok rfl
  | error fault => exact refusing_iff.mpr (FailsWith.error (h fault rfl))

/-- A check in front of a chain refuses, and the chain goes on where it does not. -/
theorem Refusing.guard {check : Prop} [Decidable check] {refusal : Refusal} {late : α → Except Fault β}
    {rest : Except Fault β} (h : ¬ check → Refusing rest) :
    Refusing (if check then MonadExcept.throw (Fault.illegal refusal) >>= late else rest) := by
  by_cases hcheck : check
  · rw [if_pos hcheck]
    exact (Refusing.throw refusal).bind fun _ hok => nomatch hok
  · rw [if_neg hcheck]
    exact h hcheck

end Outcome
end RecordBytes
