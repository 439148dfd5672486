import Mathlib
import RecordBytes.Layout.Data
import RecordBytes.Proofs.Fault.Outcome
import RecordBytes.Proofs.Layout.Bare
import RecordBytes.Proofs.Layout.Padding

/-!
# Written data

Data is its generation, if it has one, and then the run of compact cells of its fields, or the one bare byte
array, between the padding.  It is never shorter than the least length that its reader asks for.

Main results:

- `DataLayout.encode_eq_ok`: what is written for some values.
- `DataLayout.body_of_overwritten`: what a reader finds between the padding, whatever the padding holds.
-/

namespace RecordBytes

open Outcome

/-! ## Generations -/

namespace Generation

/-- A check passes the generations up to the largest and leaves them as they are. -/
theorem check_eq_ok {generation checked : Nat} :
    check generation = .ok checked ↔ generation ≤ max ∧ generation = checked := by
  unfold check
  by_cases hlt : max < generation
  · simp [hlt, hlt.not_ge]
  · simp [hlt, Nat.le_of_not_lt hlt]

/-- What stands in front of the values for a generation, or for none. -/
def tag : Option Nat → Bytes
  | some generation => encode generation
  | none => []

end Generation

namespace DataLayout

variable {layout : DataLayout}

/-! ## Written data -/

/-- What is written for stored values: the bare byte array, or the run of cells. -/
inductive Written (layout : DataLayout) (stored : List Value) : Bytes → Prop
  | bare {field : Field} (hbare : layout.bare? = some field) :
      Written layout stored (stored.flatMap (Bare.encode field.nullable))
  | cells {run : Bytes} (hbare : layout.bare? = none)
      (hrun : Cells.encode .compact layout.fields stored = .ok run) : Written layout stored run

/-- Bare data has one field, a byte array. -/
theorem bare?_eq_some {field : Field} (h : layout.bare? = some field) :
    layout.fields = [field] ∧ field.kind = .bytes := by
  unfold bare? at h
  split at h
  · next found hfields =>
    by_cases hkind : found.kind = .bytes
    · rw [if_pos hkind] at h
      rcases Option.some.inj h with rfl
      exact ⟨hfields, hkind⟩
    · rw [if_neg hkind] at h
      cases h
  · cases h

theorem mem_of_bare? {field : Field} (h : layout.bare? = some field) : field ∈ layout.fields := by
  rw [(bare?_eq_some h).1]
  exact List.mem_singleton_self field

theorem written_of_bare {field : Field} (hbare : layout.bare? = some field) {stored : List Value}
    {cells : Bytes} :
    Written layout stored cells ↔ stored.flatMap (Bare.encode field.nullable) = cells := by
  constructor
  · intro h
    cases h with
    | bare hbare' => rw [Option.some.inj (hbare.symm.trans hbare')]
    | cells hnone _ => simp [hbare] at hnone
  · rintro rfl
    exact Written.bare hbare

theorem written_of_not_bare (hbare : layout.bare? = none) {stored : List Value} {cells : Bytes} :
    Written layout stored cells ↔ Cells.encode .compact layout.fields stored = .ok cells := by
  constructor
  · intro h
    cases h with
    | bare hsome => simp [hbare] at hsome
    | cells _ hrun => exact hrun
  · exact Written.cells hbare

/-- Data is written for as many values as there are fields when the generation is small enough, the values
can be stored, and what is stored can be written. -/
theorem encode_eq_ok {values : List Value} {generation : Option Nat} {bytes : Bytes} :
    layout.encode values generation = .ok bytes ↔
      values.length = layout.fields.length ∧
        (∀ number, generation = some number → number ≤ Generation.max) ∧
          ∃ stored, Cells.stored layout.fields values = .ok stored ∧
            ∃ cells, Written layout stored cells ∧
              layout.padding.wrap (Generation.tag generation ++ cells) = bytes := by
  -- The generation and the shape of the values each decide between two chains of steps.
  unfold encode
  cases hbare : layout.bare? with
  | some field =>
    cases generation with
    | none =>
      simp only [guard_eq_ok, bind_eq_ok, pure_eq_ok, written_of_bare hbare]
      simp [Generation.tag]
    | some number =>
      simp only [guard_eq_ok, bind_eq_ok, pure_eq_ok, lift_refusal_eq_ok, Generation.check_eq_ok,
        written_of_bare hbare]
      simp [Generation.tag]
  | none =>
    cases generation with
    | none =>
      simp only [guard_eq_ok, bind_eq_ok, pure_eq_ok, lift_refusal_eq_ok, written_of_not_bare hbare,
        run, Run.encode_eq_ok]
      simp [Generation.tag]
    | some number =>
      simp only [guard_eq_ok, bind_eq_ok, pure_eq_ok, lift_refusal_eq_ok, Generation.check_eq_ok,
        written_of_not_bare hbare, run, Run.encode_eq_ok]
      simp [Generation.tag]

/-! ## Reading behind the padding -/

/-- Written data is never shorter than the least length of data. -/
theorem Written.leastSize_le {stored : List Value} {cells : Bytes}
    (hlength : stored.length = layout.fields.length) (h : Written layout stored cells) :
    layout.leastSize ≤ layout.padding.size + cells.length := by
  unfold leastSize
  cases h with
  | @bare field hbare =>
    rw [(bare?_eq_some hbare).1] at hlength
    rcases List.length_eq_one_iff.mp hlength with ⟨value, rfl⟩
    simp only [hbare, List.flatMap_singleton, Bare.length_encode, Bare.size, Padding.size]
    omega
  | cells hbare hrun =>
    simp only [hbare, run, Run.leastSize]
    exact Nat.add_le_add_left (Cells.leastSize_le hlength hrun) _

/-- A reader finds what stands between the padding where the bytes have the least length, and one more where
a generation is expected. -/
theorem body_eq_ok {expected : Option Nat} {bytes found : Bytes} :
    layout.body bytes expected = .ok found ↔
      layout.leastSizeWith expected ≤ bytes.length ∧ layout.padding.strip? bytes = some found := by
  unfold body
  by_cases hshort : bytes.length < layout.leastSizeWith expected
  · simp [hshort, hshort.not_ge]
  · simp [hshort, Nat.le_of_not_lt hshort]

/-- Between overwritten padding a reader finds the generation and the values, unless it expects a generation
that data has not. -/
theorem body_of_overwritten {stored : List Value} {generation expected : Option Nat} {cells framed : Bytes}
    (hlength : stored.length = layout.fields.length) (hwritten : Written layout stored cells)
    (hframed : layout.padding.Overwritten
      (layout.padding.wrap (Generation.tag generation ++ cells)) framed)
    (hexpected : expected.isSome → generation.isSome) :
    layout.body framed expected = .ok (Generation.tag generation ++ cells) := by
  have hleast := hwritten.leastSize_le hlength
  have hsize := hframed.1
  rw [Padding.length_wrap, List.length_append] at hsize
  have htag : (if expected.isSome then 1 else 0) ≤ (Generation.tag generation).length := by
    cases generation with
    | none =>
      have hnone : expected.isSome = false := by simpa using hexpected
      simp [hnone]
    | some number =>
      have hone : 1 ≤ Generation.size number := by
        unfold Generation.size
        split <;> omega
      simp only [Generation.tag, Generation.length_encode]
      split <;> omega
  have hneeded : layout.leastSizeWith expected ≤ framed.length := by
    unfold leastSizeWith
    omega
  exact body_eq_ok.mpr ⟨hneeded, Padding.strip?_of_overwritten hframed⟩

end DataLayout
end RecordBytes
