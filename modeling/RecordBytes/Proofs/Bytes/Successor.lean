import Mathlib
import RecordBytes.Bytes.Successor
import RecordBytes.Proofs.Bytes.Order

/-!
# Stretches of byte strings

The strings from a given one up to a bound form a stretch.  The stretch from a string up to its successor
holds exactly the strings that begin with it, and the stretch up to the string with a zero byte more holds
the string alone.

Main results:

- `Bytes.between_successor`: the strings that begin with a given one.
- `Bytes.between_single`: a single string.
-/

namespace RecordBytes.Bytes

/-- A string is not below `start`, and below the bound where there is one. -/
def Between (start : Bytes) (stop : Option Bytes) (bytes : Bytes) : Prop :=
  (compare start bytes).isLE ∧ ∀ bound ∈ stop, compare bytes bound = .lt

/-- No string is below the empty one. -/
theorem isLE_nil (bytes : Bytes) : (compare [] bytes).isLE := by
  cases bytes with
  | nil => rfl
  | cons byte rest => rw [List.compare_nil_cons]; rfl

/-- The successor of a string whose first byte is not the last one below 256. -/
theorem compare_cons_succ {byte : UInt8} (h : byte ≠ 255) (rest : Bytes) :
    compare (byte :: rest) [byte + 1] = .lt := by
  have hlt : byte < byte + 1 := by
    have hne : byte.toNat ≠ 255 := by
      intro heq
      exact h (UInt8.toNat_inj.mp heq)
    have hbyte := byte.toNat_lt
    rw [UInt8.lt_iff_toNat_lt, UInt8.toNat_add]
    have hone : UInt8.toNat 1 = 1 := rfl
    omega
  rw [List.compare_cons_cons, Std.compare_eq_lt.mpr hlt]
  rfl

/-- A string with a greater first byte is not below the successor of the first byte. -/
theorem compare_cons_succ_ne {low high : UInt8} (h : low < high) (rest : Bytes) :
    compare (high :: rest) [low + 1] ≠ .lt := by
  have hle : low + 1 ≤ high := by
    have hlow := low.toNat_lt
    have hhigh := high.toNat_lt
    rw [UInt8.lt_iff_toNat_lt] at h
    rw [UInt8.le_iff_toNat_le, UInt8.toNat_add]
    have hone : UInt8.toNat 1 = 1 := rfl
    omega
  intro hlt
  rw [List.compare_cons_cons, Ordering.then_eq_lt] at hlt
  rcases hlt with hlt | ⟨-, hrest⟩
  · exact UInt8.not_lt.mpr hle (Std.compare_eq_lt.mp hlt)
  · cases rest with
    | nil => cases hrest
    | cons byte rest => rw [List.compare_cons_nil] at hrest; cases hrest

/-- The strings from a given one up to its successor are those that begin with it. -/
theorem between_successor (start bytes : Bytes) :
    Between start (successor? start) bytes ↔ start <+: bytes := by
  unfold Between
  induction start generalizing bytes with
  | nil => simp [successor_nil, isLE_nil]
  | cons low start ih =>
    cases bytes with
    | nil => simp [List.compare_cons_nil]
    | cons high bytes =>
      rw [List.compare_cons_cons, List.cons_prefix_cons]
      cases h : compare low high with
      | lt =>
        have hlt := Std.compare_eq_lt.mp h
        have hne : low ≠ high := UInt8.ne_of_lt hlt
        simp only [Ordering.lt_then, Ordering.isLE_lt, true_and, hne, false_and, iff_false]
        intro hbelow
        cases hnext : successor? start with
        | some next =>
          have hbound := hbelow _ (successor_cons_of_some hnext)
          rw [List.compare_cons_cons, Std.OrientedCmp.gt_of_lt h] at hbound
          cases hbound
        | none =>
          have hlast : low ≠ 255 := by
            intro heq
            subst heq
            have hhigh := high.toNat_lt
            have htop : UInt8.toNat 255 = 255 := rfl
            rw [UInt8.lt_iff_toNat_lt] at hlt
            omega
          have hbound := hbelow [low + 1] (by rw [successor_cons_of_none hnext, if_neg hlast]; rfl)
          exact compare_cons_succ_ne hlt bytes hbound
      | eq =>
        rcases Std.compare_eq_iff_eq.mp h with rfl
        simp only [Ordering.eq_then, true_and]
        rw [← ih]
        refine and_congr_right ?_
        intro _
        cases hnext : successor? start with
        | some next => simp [successor_cons_of_some hnext, List.compare_cons_cons]
        | none =>
          rw [successor_cons_of_none hnext]
          by_cases hlast : low = 255
          · simp [hlast]
          · simp [hlast, compare_cons_succ hlast]
      | gt =>
        have hne : low ≠ high := by
          intro heq
          subst heq
          simp at h
        simp [hne]

/-- A string is the only one from itself up to itself with a zero byte more. -/
theorem between_single (start bytes : Bytes) :
    Between start (some (start ++ [0])) bytes ↔ start = bytes := by
  unfold Between
  induction start generalizing bytes with
  | nil =>
    cases bytes with
    | nil => simp
    | cons byte bytes =>
      have hbyte : ¬ byte < 0 := UInt8.not_lt_zero
      cases bytes with
      | nil => simp [List.compare_cons_cons, Std.compare_eq_lt, hbyte]
      | cons next bytes => simp [List.compare_cons_cons, Ordering.then_eq_lt, Std.compare_eq_lt, hbyte]
  | cons low start ih =>
    cases bytes with
    | nil => simp [List.compare_cons_nil]
    | cons high bytes =>
      rw [List.compare_cons_cons, List.cons_append]
      simp only [Option.mem_def, Option.some.injEq, forall_eq'] at ih ⊢
      rw [List.compare_cons_cons]
      cases h : compare low high with
      | lt =>
        have hne : low ≠ high := UInt8.ne_of_lt (Std.compare_eq_lt.mp h)
        simp [hne, Std.OrientedCmp.gt_of_lt h]
      | eq =>
        rcases Std.compare_eq_iff_eq.mp h with rfl
        simpa using ih bytes
      | gt =>
        have hne : low ≠ high := by
          intro heq
          subst heq
          simp at h
        simp [hne]

end RecordBytes.Bytes
