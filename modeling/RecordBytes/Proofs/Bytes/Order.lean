import Mathlib
import RecordBytes.Bytes.BigEndian
import RecordBytes.Sortable.SortOrder

/-!
# The order of byte strings

Byte strings are compared byte by byte as unsigned numbers, and a string comes before its extensions.  A
comparison is settled inside two strings when nothing that is written behind them can change it: they are
equal, or they differ at a place where both have a byte.  Settled comparisons can be put one after another,
and complementing both strings turns a settled comparison around.

Main results:

- `Bytes.Settled.compare_append`: a settled comparison of two strings decides that of their extensions, and
  where the strings are equal the extensions decide.
- `Bytes.Settled.append`, `Bytes.Settled.complement`: runs and complements of settled comparisons.
- `Bytes.compare_append_zeros`: strings compare as they do in front of as many zeros.
- `BigEndian.settled_ofNat`: numbers of one width compare as their big-endian forms.
-/

namespace RecordBytes

namespace Bytes

/-! ## Strings that differ at a common place -/

/-- At the first place where the two strings differ both have a byte, and the first string has the smaller
one. -/
inductive Below : Bytes → Bytes → Prop
  | here {low high : UInt8} (left right : Bytes) (h : low < high) : Below (low :: left) (high :: right)
  | there (byte : UInt8) {left right : Bytes} (h : Below left right) :
      Below (byte :: left) (byte :: right)

namespace Below

/-- What stands behind two strings does not matter. -/
theorem append_right {left right : Bytes} (h : Below left right) (leftTail rightTail : Bytes) :
    Below (left ++ leftTail) (right ++ rightTail) := by
  induction h with
  | here left right h => exact Below.here _ _ h
  | there byte _ ih => exact Below.there byte ih

/-- Equal bytes in front of two strings do not matter. -/
theorem append_left {left right : Bytes} (front : Bytes) (h : Below left right) :
    Below (front ++ left) (front ++ right) := by
  induction front with
  | nil => exact h
  | cons byte front ih => exact Below.there byte ih

/-- Complementing both strings turns the order around. -/
theorem complement {left right : Bytes} (h : Below left right) :
    Below right.complement left.complement := by
  induction h with
  | @here low high left right h =>
    have hflip : ~~~high < ~~~low := by
      rw [UInt8.lt_iff_toNat_lt] at h ⊢
      simp only [UInt8.toNat_not, UInt8.size]
      have := low.toNat_lt
      have := high.toNat_lt
      omega
    exact Below.here _ _ hflip
  | there byte _ ih => exact Below.there _ ih

/-- A string that differs below another compares as less. -/
theorem compare_eq_lt {left right : Bytes} (h : Below left right) : compare left right = .lt := by
  induction h with
  | here left right h => simp [List.compare_cons_cons, Std.compare_eq_lt.mpr h]
  | there byte _ ih => simp [List.compare_cons_cons, ih]

/-- A string that differs from another at a common place is not the front of it. -/
theorem not_front {left right : Bytes} (h : Below left right) : ¬ left <+: right := by
  induction h with
  | here left right h =>
    intro h
    rcases h with ⟨tail, htail⟩
    simp only [List.cons_append, List.cons.injEq] at htail
    exact UInt8.ne_of_lt h htail.1
  | there byte _ ih => simpa [List.cons_prefix_cons] using ih

end Below

/-! ## Settled comparisons -/

/-- The comparison of two strings has this outcome, whatever is written behind them both. -/
def Settled : Ordering → Bytes → Bytes → Prop
  | .lt, left, right => Below left right
  | .eq, left, right => left = right
  | .gt, left, right => Below right left

namespace Settled

variable {order : Ordering} {left right : Bytes}

/-- Equal strings are settled as equal. -/
theorem refl (bytes : Bytes) : Settled .eq bytes bytes := rfl

/-- Complementing both strings turns a settled comparison around. -/
theorem complement (h : Settled order left right) :
    Settled order.swap left.complement right.complement := by
  cases order with
  | lt => exact Below.complement h
  | eq => exact congrArg Bytes.complement h
  | gt => exact Below.complement h

/-- Settled comparisons one after another: the second counts where the first strings are equal. -/
theorem append {next : Ordering} {leftTail rightTail : Bytes} (h : Settled order left right)
    (htail : Settled next leftTail rightTail) :
    Settled (order.then next) (left ++ leftTail) (right ++ rightTail) := by
  cases order with
  | lt => exact Below.append_right h _ _
  | gt => exact Below.append_right h _ _
  | eq =>
    obtain rfl : left = right := h
    cases next with
    | lt => exact Below.append_left left htail
    | eq => exact congrArg (left ++ ·) htail
    | gt => exact Below.append_left left htail

/-- Equal bytes in front leave a settled comparison as it is. -/
theorem append_left (front : Bytes) (h : Settled order left right) :
    Settled order (front ++ left) (front ++ right) :=
  (refl front).append h

/-- Equal bytes behind leave a settled comparison as it is. -/
theorem append_right (tail : Bytes) (h : Settled order left right) :
    Settled order (left ++ tail) (right ++ tail) := by
  have happend := h.append (refl tail)
  cases order <;> exact happend

/-- A settled comparison decides that of any extensions; where the strings are equal, the extensions
decide. -/
theorem compare_append (h : Settled order left right) (leftTail rightTail : Bytes) :
    compare (left ++ leftTail) (right ++ rightTail) = order.then (compare leftTail rightTail) := by
  cases order with
  | lt => exact (Below.append_right h leftTail rightTail).compare_eq_lt
  | gt =>
    have hlt := (Below.append_right h rightTail leftTail).compare_eq_lt
    exact Std.OrientedCmp.gt_of_lt hlt
  | eq =>
    obtain rfl : left = right := h
    induction left with
    | nil => rfl
    | cons byte left ih => simpa [List.compare_cons_cons] using ih

/-- A settled comparison is the comparison of the strings. -/
theorem compare_eq (h : Settled order left right) : compare left right = order := by
  have happend := h.compare_append [] []
  cases order <;> simpa using happend

/-- Of two strings whose comparison is settled, the first is the front of an extension of the second
exactly when they are equal. -/
theorem prefix_append_iff (h : Settled order left right) (tail : Bytes) :
    left <+: right ++ tail ↔ order = .eq := by
  cases order with
  | lt =>
    have hnot := (Below.append_right h [] tail).not_front
    simpa using hnot
  | eq =>
    obtain rfl : left = right := h
    simp
  | gt =>
    simp only [reduceCtorEq, iff_false]
    intro h
    rcases h with ⟨leftTail, heq⟩
    have hlt := (Below.append_right h tail leftTail).compare_eq_lt
    rw [heq] at hlt
    simp at hlt

/-- Strings whose comparison is settled are equal exactly when it is settled as equal. -/
theorem eq_iff (h : Settled order left right) : left = right ↔ order = .eq := by
  rw [← Std.compare_eq_iff_eq, h.compare_eq]

/-- Values that are ordered as their strings are settled. -/
theorem of_compare {α : Type} [LinearOrder α] {f : α → Bytes} {a b : α}
    (hbelow : a < b → Below (f a) (f b)) (habove : b < a → Below (f b) (f a)) :
    Settled (compare a b) (f a) (f b) := by
  rcases lt_trichotomy a b with h | h | h
  · rw [compare_lt_iff_lt.mpr h]
    exact hbelow h
  · subst h
    rw [compare_eq_iff_eq.mpr rfl]
    exact refl _
  · rw [compare_gt_iff_gt.mpr h]
    exact habove h

end Settled

/-! ## Strings in front of zeros -/

/-- Zeros alone come before any string in front of as many zeros. -/
theorem compare_zeros_lt (zeros : Nat) {bytes : Bytes} (h : bytes ≠ []) :
    compare (List.replicate zeros 0) (bytes ++ List.replicate zeros 0) = .lt := by
  induction zeros generalizing bytes with
  | zero =>
    rcases List.exists_cons_of_ne_nil h with ⟨byte, rest, rfl⟩
    rfl
  | succ zeros ih =>
    rcases List.exists_cons_of_ne_nil h with ⟨byte, rest, rfl⟩
    rw [List.replicate_succ, List.cons_append, List.compare_cons_cons]
    by_cases hzero : byte = 0
    · -- The zeros behind the first one stand against the rest of the string and one zero more.
      have hrest := ih (List.append_ne_nil_of_right_ne_nil rest (List.cons_ne_nil 0 []))
      rw [List.append_assoc] at hrest
      simpa [hzero] using hrest
    · rw [Std.compare_eq_lt.mpr (UInt8.pos_iff_ne_zero.mpr hzero)]
      rfl

/-- Strings compare as they do in front of as many zeros. -/
theorem compare_append_zeros (left right : Bytes) (zeros : Nat) :
    compare (left ++ List.replicate zeros 0) (right ++ List.replicate zeros 0) = compare left right := by
  induction left generalizing right with
  | nil =>
    cases right with
    | nil => simp
    | cons byte right => exact compare_zeros_lt zeros (List.cons_ne_nil byte right)
  | cons low left ih =>
    cases right with
    | nil =>
      have hlt := compare_zeros_lt zeros (List.cons_ne_nil low left)
      exact Std.OrientedCmp.gt_of_lt hlt
    | cons high right => simp only [List.cons_append, List.compare_cons_cons, ih]

end Bytes

/-! ## Sort orders -/

namespace SortOrder

/-- A comparison as a property of this order sees it. -/
def orient (order : SortOrder) (upward : Ordering) : Ordering :=
  if order.isDescending then upward.swap else upward

/-- A comparison is turned around exactly as the written forms are. -/
theorem settled_apply (order : SortOrder) {upward : Ordering} {left right : Bytes}
    (h : Bytes.Settled upward left right) :
    Bytes.Settled (order.orient upward) (order.apply left) (order.apply right) := by
  unfold orient apply
  split
  · exact h.complement
  · exact h

@[simp]
theorem orient_eq_eq (order : SortOrder) (upward : Ordering) :
    order.orient upward = .eq ↔ upward = .eq := by
  unfold orient
  split <;> simp

end SortOrder

/-! ## Big-endian numbers -/

namespace BigEndian

/-- Of two numbers that differ in what the width can hold, the smaller one has the smaller form. -/
theorem below_ofNat (width : Nat) {low high : Nat} (h : low % 256 ^ width < high % 256 ^ width) :
    Bytes.Below (ofNat width low) (ofNat width high) := by
  induction width with
  | zero => simp [Nat.mod_one] at h
  | succ width ih =>
    have hlow : low % 256 ^ (width + 1) =
        low % 256 ^ width + 256 ^ width * (low / 256 ^ width % 256) := Nat.mod_mul
    have hhigh : high % 256 ^ (width + 1) =
        high % 256 ^ width + 256 ^ width * (high / 256 ^ width % 256) := Nat.mod_mul
    rw [hlow, hhigh] at h
    simp only [ofNat]
    by_cases htop : low / 256 ^ width % 256 = high / 256 ^ width % 256
    · have hbyte : UInt8.ofNat (low / 256 ^ width) = UInt8.ofNat (high / 256 ^ width) := by
        apply UInt8.toNat_inj.mp
        simpa [UInt8.toNat_ofNat'] using htop
      rw [htop] at h
      rw [hbyte]
      exact Bytes.Below.there _ (ih (by omega))
    · apply Bytes.Below.here
      rw [UInt8.lt_iff_toNat_lt]
      simp only [UInt8.toNat_ofNat']
      have hpos : 0 < 256 ^ width := Nat.pow_pos (by decide)
      have hlt := Nat.mod_lt low hpos
      have hlt' := Nat.mod_lt high hpos
      by_contra hge
      have hle : high / 256 ^ width % 256 + 1 ≤ low / 256 ^ width % 256 := by omega
      have hmul := Nat.mul_le_mul_left (256 ^ width) hle
      rw [Nat.mul_add, Nat.mul_one] at hmul
      omega

/-- Numbers below 256 to the width compare as their forms of that width. -/
theorem settled_ofNat {width left right : Nat} (hleft : left < 256 ^ width)
    (hright : right < 256 ^ width) :
    Bytes.Settled (compare left right) (ofNat width left) (ofNat width right) := by
  apply Bytes.Settled.of_compare
  · intro h
    apply below_ofNat
    rwa [Nat.mod_eq_of_lt hleft, Nat.mod_eq_of_lt hright]
  · intro h
    apply below_ofNat
    rwa [Nat.mod_eq_of_lt hleft, Nat.mod_eq_of_lt hright]

end BigEndian
end RecordBytes
