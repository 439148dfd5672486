import Mathlib
import RecordBytes.Writing

/-!
# Writing behind what is there

A step of writing that appends puts the same bytes behind those of any buffer and leaves these as they are; a
step that is refused has put some bytes, again the same ones behind any buffer.  What is appended is then a form
that can be told without a buffer, and steps one behind the other append one form behind the other.  A stretch
that is complemented in place is found by its beginning, so nothing in front of it is flipped.

Main results:

- `Writing.complemented_of_ok`, `Writing.complemented_of_error`: complementing where a stretch stands.
- `Writing.Appends.bind`: a step behind a step.
- `Writing.Appends.complemented`: a stretch that is complemented in place.
-/

namespace RecordBytes.Writing

/-! ## Complementing in place -/

variable {write first next : Writing}

/-- What is put behind a buffer is complemented, and the buffer is not. -/
theorem complemented_of_ok {buffer form : Bytes} (h : write buffer = .ok () (buffer ++ form)) :
    complemented write buffer = .ok () (buffer ++ form.complement) := by
  have hrun : complemented write buffer = (write >>= fun _ => complementFrom buffer.length) buffer := rfl
  simp [hrun, Bind.bind, EStateM.bind, h, complementFrom]

/-- What is refused is left as it is. -/
theorem complemented_of_error {buffer stopped : Bytes} {refusal : Refusal} (h : write buffer = .error refusal stopped) :
    complemented write buffer = .error refusal stopped := by
  have hrun : complemented write buffer = (write >>= fun _ => complementFrom buffer.length) buffer := rfl
  simp [hrun, Bind.bind, EStateM.bind, h]

/-! ## Appending -/

/-- What a step of writing does to any buffer: it appends a form, or it is refused behind the beginning of
one. -/
inductive Appends (write : Writing) : Except Refusal Bytes → Prop
  | whole {form : Bytes} (h : ∀ buffer, write buffer = .ok () (buffer ++ form)) : Appends write (.ok form)
  | partly {refusal : Refusal} (begun : Bytes) (h : ∀ buffer, write buffer = .error refusal (buffer ++ begun)) :
      Appends write (.error refusal)

namespace Appends

/-- Behind any buffer, the form is appended. -/
theorem eq_ok {form : Bytes} (h : Appends write (.ok form)) (buffer : Bytes) :
    write buffer = .ok () (buffer ++ form) := by
  cases h with
  | whole hwrite => exact hwrite buffer

/-- A step that succeeds on some buffer has appended its form. -/
theorem of_eq_ok {outcome : Except Refusal Bytes} (h : Appends write outcome) {buffer after : Bytes}
    (hwrite : write buffer = .ok () after) : ∃ form, outcome = .ok form ∧ after = buffer ++ form := by
  cases h with
  | @whole form hform =>
    rw [hform] at hwrite
    cases hwrite
    exact ⟨form, rfl, rfl⟩
  | partly begun hbegun =>
    rw [hbegun] at hwrite
    cases hwrite

/-! ## Steps -/

theorem put (bytes : Bytes) : Appends (Writing.put bytes) (.ok bytes) :=
  whole fun _ => rfl

theorem throw (refusal : Refusal) : Appends (MonadExcept.throw refusal) (.error refusal) := by
  refine partly [] fun buffer => ?_
  rw [List.append_nil]
  rfl

theorem putForm (form : Except Refusal Bytes) : Appends (Writing.putForm form) form := by
  cases form with
  | ok form => exact put form
  | error refusal => exact throw refusal

/-- A step behind a step appends its form behind that of the first. -/
theorem bind {front back : Except Refusal Bytes} (h : Appends first front) (hnext : Appends next back) :
    Appends (first >>= fun _ => next) (do return (← front) ++ (← back)) := by
  cases h with
  | partly begun hfirst =>
    refine partly begun fun buffer => ?_
    simp [Bind.bind, EStateM.bind, hfirst]
  | @whole front hfirst =>
    have hrun : ∀ buffer, (first >>= fun _ => next) buffer = next (buffer ++ front) := by
      intro buffer
      simp [Bind.bind, EStateM.bind, hfirst]
    cases hnext with
    | @whole back hback =>
      refine whole fun buffer => ?_
      rw [hrun, hback, List.append_assoc]
    | partly begun hbegun =>
      refine partly (front ++ begun) fun buffer => ?_
      rw [hrun, hbegun, List.append_assoc]

/-- A step behind bytes that are put as they are. -/
theorem put_bind {form : Except Refusal Bytes} (bytes : Bytes) (h : Appends next form) :
    Appends (Writing.put bytes >>= fun _ => next) ((bytes ++ ·) <$> form) := by
  have hboth := (put bytes).bind h
  cases form with
  | ok form => exact hboth
  | error refusal => exact hboth

/-- A step behind bytes that are put under a condition. -/
theorem putIf_bind {form : Except Refusal Bytes} (condition : Bool) (bytes : Bytes) (h : Appends next form) :
    Appends (do if condition then Writing.put bytes
                next)
      (do return (if condition then bytes else []) ++ (← form)) := by
  cases condition with
  | true => exact h.put_bind bytes
  | false =>
    have hform : ((do return [] ++ (← form)) : Except Refusal Bytes) = form := by
      cases form <;> rfl
    exact hform.symm ▸ h

/-- A stretch that is complemented where it stands appends the complement of its form. -/
theorem complemented {form : Except Refusal Bytes} (h : Appends write form) :
    Appends (Writing.complemented write) (Bytes.complement <$> form) := by
  cases h with
  | whole hform => exact whole fun buffer => complemented_of_ok (hform buffer)
  | partly begun hbegun => exact partly begun fun buffer => complemented_of_error (hbegun buffer)

end Appends
end RecordBytes.Writing
