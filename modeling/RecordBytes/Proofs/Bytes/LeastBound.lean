import Mathlib
import RecordBytes.Proofs.Bytes.Successor

/-!
# The least string above a stretch

The bound behind the strings that begin with a given one comes of its last byte that can be raised.  The bytes
behind that one are 255 each; they are dropped, not wrapped around to zeros, so the bound is shorter than the
string wherever it carries.  With zeros in their place there would be smaller bounds, the string of fewer zeros
among them.

Main results:

- `Bytes.successor_concat`: the last byte is raised, or dropped where it cannot be.
- `Bytes.successor_eq_none_iff`: the strings that nothing bounds.
- `Bytes.isLE_of_above`: no smaller bound will do.
- `Bytes.successor_least`: the least string above all that begin with a given one.
-/

namespace RecordBytes.Bytes

/-- The last byte is raised where it can be, and dropped where it cannot. -/
theorem successor_concat (lead : Bytes) (last : UInt8) :
    successor? (lead ++ [last]) = if last = 255 then successor? lead else some (lead ++ [last + 1]) := by
  induction lead with
  | nil => exact successor_cons_of_none successor_nil
  | cons byte lead ih =>
    by_cases hlast : last = 255
    · rw [if_pos hlast] at ih ⊢
      simp only [List.cons_append, successor?, ih]
    · rw [if_neg hlast] at ih ⊢
      exact successor_cons_of_some ih

/-- Nothing bounds the strings that begin with a string when none of its bytes can be raised. -/
theorem successor_eq_none_iff {lead : Bytes} : successor? lead = none ↔ ∀ byte ∈ lead, byte = 255 := by
  -- From the last byte on, as far as bytes are dropped.
  induction lead using List.reverseRecOn with
  | nil => simp [successor_nil]
  | append_singleton lead last ih =>
    rw [successor_concat]
    by_cases hlast : last = 255
    · simp [hlast, ih, or_imp]
    · simp [hlast]

variable {lead next bound : Bytes}

/-- A bound of all strings that begin with a string is not below its successor. -/
theorem isLE_of_above (hnext : successor? lead = some next)
    (habove : ∀ bytes, lead <+: bytes → compare bytes bound = .lt) : (compare next bound).isLE := by
  by_contra hgreater
  rw [Bool.not_eq_true, Ordering.isLE_eq_false] at hgreater
  have hbelow : compare bound next = .lt := Std.OrientedCmp.lt_of_gt hgreater
  have hlead : (compare lead bound).isLE := by
    rw [habove lead (List.prefix_refl lead)]
    rfl
  -- The bound would lie in the stretch, and so below itself.
  have hwithin : Between lead (successor? lead) bound := by
    rw [hnext]
    exact ⟨hlead, by simpa using hbelow⟩
  have hself := habove bound ((between_successor lead bound).mp hwithin)
  simp at hself

/-- A string has no successor exactly when it is empty or all its bytes are 255.  A successor bounds the strings
that begin with the string and no others, and every string above all of them is at least the successor.  Where
there is none, all strings from the string on begin with it. -/
theorem successor_least (lead : Bytes) :
    (successor? lead = none ↔ lead = [] ∨ ∀ byte ∈ lead, byte = 255) ∧
    (∀ next, successor? lead = some next →
      (∀ bytes, (compare lead bytes).isLE ∧ compare bytes next = .lt ↔ lead <+: bytes) ∧
      ∀ bound, (∀ bytes, lead <+: bytes → compare bytes bound = .lt) → (compare next bound).isLE) ∧
    (successor? lead = none → ∀ bytes, (compare lead bytes).isLE → lead <+: bytes) := by
  refine ⟨?_, ?_, ?_⟩
  · rw [successor_eq_none_iff]
    constructor
    · exact Or.inr
    · rintro (rfl | hfull)
      · simp
      · exact hfull
  · intro next hnext
    refine ⟨?_, fun bound => isLE_of_above hnext⟩
    intro bytes
    rw [← between_successor, hnext]
    simp [Between]
  · intro hnone bytes hbytes
    rw [← between_successor, hnone]
    exact ⟨hbytes, by simp⟩

/-- The successor of a string that carries over two bytes is one byte, and bounds an extension of the string; a
string of bytes that cannot be raised begins everything from it on. -/
theorem successor_least_carried :
    successor? [7, 255, 255] = some [8] ∧ compare ([7, 255, 255, 255] : Bytes) [8] = .lt ∧
    (∀ bound : Bytes, (∀ bytes : Bytes, [7, 255, 255] <+: bytes → compare bytes bound = .lt) →
      (compare [8] bound).isLE) ∧
    ([255, 255] : Bytes) <+: [255, 255, 3] := by
  have hcarried : successor? [7, 255, 255] = some [8] := by decide
  have hnone : successor? [255, 255] = none := (successor_least [255, 255]).1.mpr (Or.inr (by simp))
  rcases (successor_least [7, 255, 255]).2.1 [8] hcarried with ⟨hwithin, hleast⟩
  exact ⟨hcarried, ((hwithin _).mpr (List.prefix_append [7, 255, 255] [255])).2, hleast,
    (successor_least [255, 255]).2.2 hnone [255, 255, 3] (by decide)⟩

end RecordBytes.Bytes
