import Mathlib
import RecordBytes.Proofs.Bytes.Order
import RecordBytes.Proofs.Cursor.Yields
import RecordBytes.Sortable.Escaped

/-!
# Escaped byte strings

Where two escaped strings end at different places, the terminator of the shorter one stands against a byte
that is not zero, or against the partner of an escaped zero, and is below either.

Main results:

- `Escaped.settled_encode`: byte strings compare as their escaped forms.
- `Escaped.yields_read`: an escaped form is read back.
-/

namespace RecordBytes.Escaped

/-! ## Order -/

theorem encode_cons_zero (rest : Bytes) : encode (0 :: rest) = 0 :: 1 :: encode rest := by
  simp [encode]

theorem encode_cons_of_ne {byte : UInt8} (h : byte ≠ 0) (rest : Bytes) :
    encode (byte :: rest) = byte :: encode rest := by
  simp [encode, h]

/-- The terminator is below everything that can stand in its place. -/
theorem below_nil_cons (byte : UInt8) (rest : Bytes) :
    Bytes.Below (encode []) (encode (byte :: rest)) := by
  by_cases hzero : byte = 0
  · rw [hzero, encode_cons_zero]
    exact Bytes.Below.there 0 (Bytes.Below.here _ _ (by decide))
  · rw [encode_cons_of_ne hzero]
    exact Bytes.Below.here _ _ (UInt8.pos_iff_ne_zero.mpr hzero)

/-- Strings whose first bytes differ have forms whose first bytes differ in the same way. -/
theorem below_of_head_lt {low high : UInt8} (h : low < high) (left right : Bytes) :
    Bytes.Below (encode (low :: left)) (encode (high :: right)) := by
  have hhigh : high ≠ 0 := by
    intro heq
    subst heq
    exact absurd h (UInt8.not_lt_zero)
  rw [encode_cons_of_ne hhigh]
  by_cases hlow : low = 0
  · subst hlow
    rw [encode_cons_zero]
    exact Bytes.Below.here _ _ h
  · rw [encode_cons_of_ne hlow]
    exact Bytes.Below.here _ _ h

/-- Byte strings compare as their escaped forms. -/
theorem settled_encode (left right : Bytes) :
    Bytes.Settled (compare left right) (encode left) (encode right) := by
  induction left generalizing right with
  | nil =>
    cases right with
    | nil => exact Bytes.Settled.refl _
    | cons byte right =>
      rw [List.compare_nil_cons]
      exact below_nil_cons byte right
  | cons low left ih =>
    cases right with
    | nil =>
      rw [List.compare_cons_nil]
      exact below_nil_cons low left
    | cons high right =>
      rw [List.compare_cons_cons]
      cases h : compare low high with
      | lt => exact below_of_head_lt (Std.compare_eq_lt.mp h) left right
      | eq =>
        rcases Std.compare_eq_iff_eq.mp h with rfl
        by_cases hzero : low = 0
        · rw [hzero, encode_cons_zero, encode_cons_zero]
          exact Bytes.Settled.append_left [0, 1] (ih right)
        · rw [encode_cons_of_ne hzero, encode_cons_of_ne hzero]
          exact Bytes.Settled.append_left [low] (ih right)
      | gt => exact below_of_head_lt (Std.compare_eq_gt.mp h) right left

/-! ## Reading -/

/-- The reader finds the content of an escaped form that is next, and stops behind the terminator. -/
theorem readFrom_encode (mask : UInt8) (content : Bytes) :
    ∀ (position : Nat) (unread rest : Bytes), unread.map (· ^^^ mask) = encode content ++ rest →
      readFrom mask position false unread =
        .ok content ⟨position + (encode content).length, unread.drop (encode content).length, mask⟩ := by
  induction content with
  | nil =>
    intro position unread rest hshown
    rcases List.map_eq_cons_iff.mp hshown with ⟨first, unread, rfl, hfirst, hshown⟩
    rcases List.map_eq_cons_iff.mp hshown with ⟨second, unread, rfl, hsecond, -⟩
    simp [readFrom, hfirst, hsecond, encode]
  | cons byte content ih =>
    intro position unread rest hshown
    by_cases hzero : byte = 0
    · subst hzero
      rw [encode_cons_zero] at hshown ⊢
      rcases List.map_eq_cons_iff.mp hshown with ⟨first, unread, rfl, hfirst, hshown⟩
      rcases List.map_eq_cons_iff.mp hshown with ⟨second, unread, rfl, hsecond, hshown⟩
      have htail := ih (position + 1 + 1) unread rest hshown
      simp [readFrom, hfirst, hsecond, htail, prepend]
      omega
    · rw [encode_cons_of_ne hzero] at hshown ⊢
      rcases List.map_eq_cons_iff.mp hshown with ⟨first, unread, rfl, hfirst, hshown⟩
      have htail := ih (position + 1) unread rest hshown
      simp [readFrom, hfirst, hzero, htail, prepend]
      omega

/-- An escaped form is read back. -/
theorem yields_read (content : Bytes) : Scan.Yields read (encode content) content := by
  intro cursor rest hshown
  exact readFrom_encode cursor.mask content cursor.position cursor.unread rest hshown

end RecordBytes.Escaped
