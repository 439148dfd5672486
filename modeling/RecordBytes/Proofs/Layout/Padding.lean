import Mathlib
import RecordBytes.Layout.Cells
import RecordBytes.Proofs.Bytes.Order
import RecordBytes.Proofs.Fault.Outcome

/-!
# Padding

The padding around a body holds zero bytes when the body is written and may hold anything when it is read:
taking it off looks at nothing but its length.

Main results:

- `Padding.strip?_eq_some`: what stands between the padding.
- `Padding.overwritten_of_append`: what overwritten padding is.
- `Padding.strip?_of_overwritten`: overwritten padding leaves what stands between.
- `Padding.drop_of_strip?`: what stands between begins behind the padding in front.
- `Padding.compare_wrap`: bodies compare as they do between their padding.
-/

namespace RecordBytes.Padding

theorem length_wrap (padding : Padding) (body : Bytes) :
    (padding.wrap body).length = padding.size + body.length := by
  simp [wrap, size]
  omega

theorem wrap_inj {padding : Padding} {left right : Bytes} :
    padding.wrap left = padding.wrap right ↔ left = right := by
  simp [wrap]

/-- What stands between the padding is what is left without a front and a back of its lengths. -/
theorem strip?_eq_some {padding : Padding} {bytes body : Bytes} :
    padding.strip? bytes = some body ↔
      ∃ front back, front.length = padding.before ∧ back.length = padding.after ∧
        front ++ body ++ back = bytes := by
  unfold strip?
  constructor
  · intro h
    split at h
    · next hafter =>
      rcases slice?_eq_some.mp h with ⟨⟨hbefore, -⟩, rfl⟩
      refine ⟨bytes.take padding.before, bytes.drop (bytes.length - padding.after), ?_, ?_, ?_⟩
      · exact List.length_take_of_le (hbefore.trans (Nat.sub_le _ _))
      · rw [List.length_drop]
        omega
      · have hfront : bytes.take padding.before =
            (bytes.take (bytes.length - padding.after)).take padding.before := by
          rw [List.take_take, Nat.min_eq_left hbefore]
        rw [hfront, List.take_append_drop, List.take_append_drop]
    · cases h
  · rintro ⟨front, back, hfront, hback, rfl⟩
    have hlength : (front ++ body ++ back).length = (front ++ body).length + padding.after := by
      rw [List.length_append, hback]
    have hbefore : padding.before ≤ (front ++ body).length := by
      rw [List.length_append, hfront]
      exact Nat.le_add_right _ _
    rw [hlength, if_pos (Nat.le_add_left _ _), Nat.add_sub_cancel, slice?_eq_some, List.take_left,
      List.drop_left' hfront, hlength]
    exact ⟨⟨hbefore, Nat.le_add_right _ _⟩, rfl⟩

/-- The bytes with any others in place of the padding. -/
def Overwritten (padding : Padding) (bytes framed : Bytes) : Prop :=
  framed.length = bytes.length ∧
    ∀ index, padding.before ≤ index → index + padding.after < bytes.length →
      framed[index]? = bytes[index]?

theorem overwritten_refl (padding : Padding) (bytes : Bytes) : padding.Overwritten bytes bytes :=
  ⟨rfl, fun _ _ _ => rfl⟩

/-- A body with other bytes in place of its padding stands between as many bytes as the padding has. -/
theorem overwritten_of_append {padding : Padding} {front back : Bytes} (hfront : front.length = padding.before)
    (hback : back.length = padding.after) (body : Bytes) :
    padding.Overwritten (padding.wrap body) (front ++ body ++ back) := by
  refine ⟨by simp [wrap, hfront, hback], ?_⟩
  intro index hbefore hafter
  have hfrontLe : front.length ≤ index := by rwa [hfront]
  have hreplicate : (List.replicate padding.before (0 : UInt8)).length ≤ index := by simpa using hbefore
  have hbody : index - padding.before < body.length := by
    rw [length_wrap, size] at hafter
    omega
  rw [wrap, List.append_assoc, List.append_assoc, List.getElem?_append_right hfrontLe,
    List.getElem?_append_right hreplicate, hfront, List.length_replicate, List.getElem?_append_left hbody,
    List.getElem?_append_left hbody]

/-- Overwritten padding leaves what stands between. -/
theorem strip?_of_overwritten {padding : Padding} {body framed : Bytes}
    (h : padding.Overwritten (padding.wrap body) framed) : padding.strip? framed = some body := by
  rcases h with ⟨hlength, hbetween⟩
  have hwrap := padding.length_wrap body
  have hsize : padding.size = padding.before + padding.after := rfl
  have hslice : (framed.take (framed.length - padding.after)).drop padding.before =
      ((padding.wrap body).take (framed.length - padding.after)).drop padding.before := by
    ext index : 1
    rw [List.getElem?_drop, List.getElem?_drop, List.getElem?_take, List.getElem?_take]
    by_cases hindex : padding.before + index < framed.length - padding.after
    · rw [if_pos hindex, if_pos hindex]
      exact hbetween _ (Nat.le_add_right _ _) (by omega)
    · rw [if_neg hindex, if_neg hindex]
  rw [← padding.strip?_wrap body]
  unfold strip? slice?
  rw [hslice, hlength]

/-- What stands between the padding begins behind the padding in front. -/
theorem drop_of_strip? {padding : Padding} {bytes body : Bytes} (h : padding.strip? bytes = some body) :
    ∃ behind, bytes.drop padding.before = body ++ behind := by
  unfold strip? at h
  split at h
  · rcases slice?_eq_some.mp h with ⟨-, rfl⟩
    rw [List.drop_take]
    exact ⟨_, (List.take_append_drop _ _).symm⟩
  · cases h

/-- Bodies compare as they do between their padding: where one is the front of the other, the zeros behind it
stand against bytes that are at least as great, and the longer one is greater in the end. -/
theorem compare_wrap (padding : Padding) (left right : Bytes) :
    compare (padding.wrap left) (padding.wrap right) = compare left right := by
  unfold wrap
  rw [List.append_assoc, List.append_assoc, (Bytes.Settled.refl _).compare_append]
  exact Bytes.compare_append_zeros left right padding.after

end RecordBytes.Padding
