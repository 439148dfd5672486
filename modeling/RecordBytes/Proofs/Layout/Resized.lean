import Mathlib
import RecordBytes.Proofs.Layout.Padding
import RecordBytes.Proofs.Layout.Scanning

/-!
# Bytes cut short or extended

A reader that keeps to the bytes it moves over and has to reach the end finds the end of a string it can read at
one place only.  It refuses every proper prefix of such a string, and the string with more bytes behind it.  The
padding is told apart by its length alone, so between the padding a cut or extended string is a cut or extended
body, whatever bytes have come to stand in the place of the padding.

Main results:

- `Padding.strip?_of_resized`: between the padding.
- `Reading.Exact.bind`: a chain that refuses what is cut short or extended.
- `Reading.exact_upToEnd`: a reader that has to reach the end does.
-/

namespace RecordBytes

/-! ## Resized strings -/

/-- A proper prefix of a string, or the string with more bytes behind it. -/
inductive Bytes.Resized (whole : Bytes) : Bytes → Prop
  | cut {front rest : Bytes} (hwhole : front ++ rest = whole) (hrest : rest ≠ []) : Resized whole front
  | extended {extra : Bytes} (hextra : extra ≠ []) : Resized whole (whole ++ extra)

namespace Bytes

theorem Resized.length_ne {whole given : Bytes} (h : Resized whole given) : given.length ≠ whole.length := by
  cases h with
  | @cut front rest hwhole hrest =>
    have hpos := List.length_pos_of_ne_nil hrest
    rw [← hwhole, List.length_append]
    omega
  | @extended extra hextra =>
    have hpos := List.length_pos_of_ne_nil hextra
    rw [List.length_append]
    omega

/-- A string and a resized one begin one string. -/
theorem Resized.exists_common {whole given : Bytes} (h : Resized whole given) :
    ∃ longer, whole <+: longer ∧ given <+: longer := by
  cases h with
  | @cut front rest hwhole hrest => exact ⟨whole, List.prefix_refl whole, ⟨rest, hwhole⟩⟩
  | @extended extra hextra => exact ⟨whole ++ extra, ⟨extra, rfl⟩, List.prefix_refl _⟩

/-- Strings of different lengths that begin one string are resized. -/
theorem resized_of_common {whole given longer : Bytes} (hwhole : whole <+: longer) (hgiven : given <+: longer)
    (hne : given.length ≠ whole.length) : Resized whole given := by
  rcases List.prefix_or_prefix_of_prefix hgiven hwhole with ⟨rest, hrest⟩ | ⟨extra, rfl⟩
  · refine Resized.cut hrest ?_
    rintro rfl
    rw [List.append_nil] at hrest
    exact hne (congrArg List.length hrest)
  · refine Resized.extended ?_
    rintro rfl
    exact hne (by rw [List.append_nil])

/-- Behind the front of a string, a resized one is resized, unless it ends in the front. -/
theorem Resized.behind {front whole given : Bytes} (h : Resized (front ++ whole) given) :
    given.length < front.length ∨ ∃ other, front ++ other = given ∧ Resized whole other := by
  rcases Nat.lt_or_ge given.length front.length with hshort | hlong
  · exact Or.inl hshort
  · rcases h.exists_common with ⟨longer, ⟨back, rfl⟩, hgiven⟩
    have hfront : front <+: given := by
      apply List.prefix_of_prefix_length_le _ hgiven hlong
      exact ⟨whole ++ back, by simp⟩
    rcases hfront with ⟨other, rfl⟩
    rw [List.append_assoc, List.prefix_append_right_inj] at hgiven
    have hne := h.length_ne
    simp only [List.length_append] at hne
    exact Or.inr ⟨other, rfl, resized_of_common ⟨back, rfl⟩ hgiven (by omega)⟩

end Bytes

/-- Between the padding, a resized string is resized, unless it cannot hold the padding. -/
theorem Padding.strip?_of_resized {padding : Padding} {whole body given : Bytes}
    (hstrip : padding.strip? whole = some body) (h : Bytes.Resized whole given)
    (hlong : padding.size ≤ given.length) :
    ∃ other, padding.strip? given = some other ∧ Bytes.Resized body other := by
  rcases strip?_eq_some.mp hstrip with ⟨front, back, hfront, hback, rfl⟩
  rw [size] at hlong
  rw [List.append_assoc] at h
  rcases h.behind with hshort | ⟨unpadded, rfl, hunpadded⟩
  · omega
  rw [List.length_append, hfront] at hlong
  have hne := hunpadded.length_ne
  rw [List.length_append, hback] at hne
  rcases hunpadded.exists_common with ⟨longer, hbody, hgiven⟩
  refine ⟨unpadded.take (unpadded.length - padding.after), ?_, ?_⟩
  · refine strip?_eq_some.mpr ⟨front, unpadded.drop (unpadded.length - padding.after), hfront, ?_, ?_⟩
    · rw [List.length_drop]
      omega
    · rw [List.append_assoc, List.take_append_drop]
  · apply Bytes.resized_of_common ((List.prefix_append body back).trans hbody)
      ((List.take_prefix _ _).trans hgiven)
    rw [List.length_take]
    omega

/-! ## Readers that refuse them -/

namespace Reading

variable {α β : Type} {cursor middle : Cursor} {found : α}

/-- The step refuses the bytes at the cursor, cut short or extended, with a plain fault. -/
def Exact (reading : Reading α) (cursor : Cursor) : Prop :=
  ∀ unread, Bytes.Resized cursor.unread unread →
    ∃ fault after, reading (cursor.facing unread) = .error fault after ∧ fault.IsPlain

/-- A chain refuses what its first step refuses. -/
theorem Exact.and_then {reading : Reading α} (h : Exact reading cursor) (next : α → Reading β) :
    Exact (reading >>= next) cursor := by
  intro unread hresized
  rcases h unread hresized with ⟨fault, after, hrun, hplain⟩
  exact ⟨fault, after, by simp [Bind.bind, EStateM.bind, hrun], hplain⟩

/-- A chain whose first step keeps to its bytes refuses what the rest refuses behind them. -/
theorem Exact.bind {first : Reading α} {next : α → Reading β} {least : Nat}
    (hfirst : Confined Fault.IsPlain least first) (hrun : first cursor = .ok found middle)
    (hnext : Exact (next found) middle) : Exact (first >>= next) cursor := by
  intro unread hresized
  cases hagain : first (cursor.facing unread) with
  | error fault after => exact ⟨fault, after, by simp [Bind.bind, EStateM.bind, hagain], hfirst.blames hagain⟩
  | ok given place =>
    -- The first step finds the same as before and stops in front of a resized rest.
    have hsame : given = found ∧ ∃ rest, place = middle.facing rest ∧ Bytes.Resized middle.unread rest := by
      cases hresized with
      | @cut _ rest hwhole hrest =>
        have hwholeRun := hfirst.ahead rest hagain
        rw [Cursor.unread_facing, hwhole, Cursor.facing_facing, Cursor.facing_self, hrun] at hwholeRun
        cases hwholeRun
        exact ⟨rfl, place.unread, rfl, Bytes.Resized.cut rfl hrest⟩
      | @extended extra hextra =>
        rw [hfirst.ahead extra hrun] at hagain
        cases hagain
        exact ⟨rfl, _, rfl, Bytes.Resized.extended hextra⟩
    rcases hsame with ⟨rfl, rest, rfl, hrest⟩
    rcases hnext rest hrest with ⟨fault, after, hrefused, hplain⟩
    exact ⟨fault, after, by simp [Bind.bind, EStateM.bind, hagain, hrefused], hplain⟩

/-- Where the end is reached, a reader that has to reach it refuses a resized string. -/
theorem exact_upToEnd {reading : Reading α} {least : Nat} (h : Confined Fault.IsPlain least reading)
    (hrun : reading cursor = .ok found middle) (hend : middle.unread = []) {damage : Nat → Damage}
    (hdamage : ∀ count, (damage count).IsPlain) : Exact (reading.upToEnd damage) cursor := by
  have hcheck : Exact ((pure found : Reading α).upToEnd damage) middle := by
    intro unread hresized
    rw [hend] at hresized
    have hleft : unread ≠ [] := by
      have hne := hresized.length_ne
      rintro rfl
      exact hne rfl
    exact ⟨_, _, upToEnd_of_left rfl hleft, (hdamage _).corrupt⟩
  exact Exact.bind h hrun hcheck

/-- A resized string is refused from its start. -/
theorem Exact.runOn {reading : Reading α} {body other : Bytes} (h : Exact reading (Cursor.start body 0))
    (hresized : Bytes.Resized body other) : ∃ fault, reading.runOn other = .error fault ∧ fault.IsPlain := by
  rcases h other hresized with ⟨fault, after, hrun, hplain⟩
  rw [Cursor.facing_start] at hrun
  exact ⟨fault, by rw [Reading.runOn, hrun], hplain⟩

end Reading
end RecordBytes
