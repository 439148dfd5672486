import Mathlib
import RecordBytes.Span

/-!
# What bounds name

Bounds name a span by where it begins and where it ends, and these are numbers of any size: behind the largest index
that a word can hold there is a next one.  Resolving stops at the largest word instead.  As long as the number of
properties is below it, no bound that is cut off so lies inside, and one that is not cut off is the number that was
meant.

Main definitions:

- `Bounds.begins`, `Bounds.ends`: where the bounds begin and end, whatever a word can hold.
- `Bounds.NamesSpan`: bounds that name a span of some properties.

Main results:

- `Bound.first?_of_lt`, `Bound.behind?_of_le`: a bound that lies inside is not cut off.
- `Span.resolve_eq_ok_iff`: what resolving gives, by the bounds as they are cut off.
- `Span.resolve_exact`: bounds are resolved exactly when they name a span, to the span that they name.
-/

namespace RecordBytes

variable {count : Nat}

/-! ## The largest word -/

section

variable {index : Nat}

/-- Below the largest word, cutting off the next index puts nothing inside. -/
theorem nextIndex_lt_iff (hcount : count < 0xFFFF_FFFF_FFFF_FFFF) : nextIndex index < count ↔ index + 1 < count := by
  unfold nextIndex
  omega

theorem nextIndex_le_iff (hcount : count < 0xFFFF_FFFF_FFFF_FFFF) : nextIndex index ≤ count ↔ index + 1 ≤ count := by
  unfold nextIndex
  omega

/-- A next index below the largest word is not cut off. -/
theorem nextIndex_eq (hcount : count < 0xFFFF_FFFF_FFFF_FFFF) (h : index + 1 ≤ count) :
    nextIndex index = index + 1 := by
  unfold nextIndex
  omega

end

/-! ## Bounds -/

namespace Bound

/-- The first index of a stretch with this start, where one is given, whatever a word can hold. -/
def firstIndex? : Bound → Option Nat
  | unbounded => none
  | included index => some index
  | excluded index => some (index + 1)

/-- The index behind a stretch with this end, where one is given, whatever a word can hold. -/
def indexBehind? : Bound → Option Nat
  | unbounded => none
  | included index => some (index + 1)
  | excluded index => some index

variable {bound : Bound}

/-- A start lies inside when it does so before it is cut off, and then it is not. -/
theorem first?_of_lt (hcount : count < 0xFFFF_FFFF_FFFF_FFFF) :
    ((∀ start ∈ bound.first?, start < count) ↔ ∀ start ∈ bound.firstIndex?, start < count) ∧
    ((∀ start ∈ bound.firstIndex?, start < count) → bound.first? = bound.firstIndex?) := by
  cases bound with
  | unbounded | included index => exact ⟨Iff.rfl, fun _ => rfl⟩
  | excluded index =>
    simp only [first?, firstIndex?, Option.mem_some_iff, forall_eq', nextIndex_lt_iff hcount, true_and]
    intro h
    rw [nextIndex_eq hcount h.le]

/-- An end lies inside when it does so before it is cut off, and then it is not. -/
theorem behind?_of_le (hcount : count < 0xFFFF_FFFF_FFFF_FFFF) :
    ((∀ stop ∈ bound.behind?, stop ≤ count) ↔ ∀ stop ∈ bound.indexBehind?, stop ≤ count) ∧
    ((∀ stop ∈ bound.indexBehind?, stop ≤ count) → bound.behind? = bound.indexBehind?) := by
  cases bound with
  | unbounded | excluded index => exact ⟨Iff.rfl, fun _ => rfl⟩
  | included index =>
    simp only [behind?, indexBehind?, Option.mem_some_iff, forall_eq', nextIndex_le_iff hcount, true_and]
    intro h
    rw [nextIndex_eq hcount h]

end Bound

namespace Bounds

/-- The index at which the stretch begins: the given one, or the first of all. -/
def begins (bounds : Bounds) : Nat :=
  bounds.start.firstIndex?.getD 0

/-- The index before which the stretch ends: the given one, or the one behind all. -/
def ends (bounds : Bounds) (count : Nat) : Nat :=
  bounds.stop.indexBehind?.getD count

/-- The bounds name a span of the first `count` indices: a start that is given is one of them, an end that is given
is not behind the index behind them, and the start is not past the end. -/
structure NamesSpan (bounds : Bounds) (count : Nat) : Prop where
  start_lt : ∀ start ∈ bounds.start.firstIndex?, start < count
  stop_le : ∀ stop ∈ bounds.stop.indexBehind?, stop ≤ count
  ordered : bounds.begins ≤ bounds.ends count

end Bounds

/-! ## Spans -/

namespace Span

open Bounds

variable {bounds : Bounds} {span : Span}

/-- The indices of a span are the interval from its start to its end. -/
theorem indices_eq (span : Span) : span.indices = List.Ico span.start span.stop :=
  List.range'_eq_map_range.symm

/-- A given start and a given end are resolved as they are cut off, where they lie inside and in order. -/
theorem resolve_eq_ok_iff :
    resolve bounds count = .ok span ↔
      (∀ start ∈ bounds.start.first?, start < count) ∧ (∀ stop ∈ bounds.stop.behind?, stop ≤ count) ∧
        span.start = bounds.start.first?.getD 0 ∧ span.stop = bounds.stop.behind?.getD count ∧
        span.count = count := by
  rcases span with ⟨first, behind, whole, hordered, hinside⟩
  have hstart : (∀ start ∈ bounds.start.first?, start < count) ↔
      ¬ (count ≤ bounds.start.first?.getD 0 ∧ bounds.start.first?.isSome) := by
    cases bounds.start.first? <;> simp
  have hstop : (∀ stop ∈ bounds.stop.behind?, stop ≤ count) ↔ ¬ count < bounds.stop.behind?.getD count := by
    cases bounds.stop.behind? <;> simp
  rw [hstart, hstop]
  simp only [resolve]
  constructor
  · intro h
    split at h
    · cases h
    next hbelow =>
    split at h
    · cases h
    next hwithin =>
    split at h
    · cases h
    · cases h
      exact ⟨hbelow, hwithin, rfl, rfl, rfl⟩
  · rintro ⟨hbelow, hwithin, hfirst, hbehind, hwhole⟩
    subst hfirst hbehind hwhole
    rw [if_neg hbelow, dif_neg hwithin, dif_neg (Nat.not_lt.mpr hordered)]

/-- Bounds that name a span are resolved to it. -/
theorem resolve_iff_of_lt (hcount : count < 0xFFFF_FFFF_FFFF_FFFF) :
    resolve bounds count = .ok span ↔
      bounds.NamesSpan count ∧ span.start = bounds.begins ∧ span.stop = bounds.ends count ∧ span.count = count := by
  rcases @Bound.first?_of_lt _ bounds.start hcount with ⟨hfirst, hfirstEq⟩
  rcases @Bound.behind?_of_le _ bounds.stop hcount with ⟨hbehind, hbehindEq⟩
  rw [resolve_eq_ok_iff, hfirst, hbehind]
  constructor
  · rintro ⟨hbelow, hwithin, hstart, hstop, hwhole⟩
    rw [hfirstEq hbelow] at hstart
    rw [hbehindEq hwithin] at hstop
    have hordered : bounds.begins ≤ bounds.ends count :=
      calc bounds.begins = span.start := hstart.symm
        _ ≤ span.stop := span.start_le_stop
        _ = bounds.ends count := hstop
    exact ⟨⟨hbelow, hwithin, hordered⟩, hstart, hstop, hwhole⟩
  · rintro ⟨hnames, hstart, hstop, hwhole⟩
    rw [hfirstEq hnames.start_lt, hbehindEq hnames.stop_le]
    exact ⟨hnames.start_lt, hnames.stop_le, hstart, hstop, hwhole⟩

/-- Where the bounds name a span, there is one. -/
theorem exists_of_namesSpan (h : bounds.NamesSpan count) :
    ∃ span : Span, span.start = bounds.begins ∧ span.stop = bounds.ends count ∧ span.count = count := by
  have hinside : bounds.ends count ≤ count := by
    unfold Bounds.ends
    cases hstop : bounds.stop.indexBehind? with
    | none => exact Nat.le_refl _
    | some stop => exact h.stop_le stop hstop
  exact ⟨⟨bounds.begins, bounds.ends count, count, h.ordered, hinside⟩, rfl, rfl, rfl⟩

/-- Among fewer properties than the largest word, bounds of any size are resolved exactly when they name a span: a
given start is the index of a property, a given end is at most the count, and the start is not past the end.  The
span is the one that they name, its size and its indices are those of the interval, and it is at the head of the
list when it begins at the first property and at the tail when it ends behind the last.  Other bounds are refused. -/
theorem resolve_exact (hcount : count < 0xFFFF_FFFF_FFFF_FFFF) (bounds : Bounds) :
    ((∃ span, resolve bounds count = .ok span) ↔ bounds.NamesSpan count) ∧
    (∀ span, resolve bounds count = .ok span →
      span.start = bounds.begins ∧ span.stop = bounds.ends count ∧
      span.start + span.size = span.stop ∧
      span.indices = List.Ico bounds.begins (bounds.ends count) ∧
      (span.isHead = true ↔ bounds.begins = 0) ∧ (span.isTail = true ↔ bounds.ends count = count)) ∧
    (¬ bounds.NamesSpan count →
      ∃ refusal, (liftM (resolve bounds count) : Except Fault Span) = .error (.illegal refusal)) := by
  have hiff : (∃ span, resolve bounds count = .ok span) ↔ bounds.NamesSpan count := by
    simp only [resolve_iff_of_lt hcount]
    exact ⟨fun ⟨_, hnames, _⟩ => hnames,
      fun hnames => (exists_of_namesSpan hnames).imp fun _ hspan => ⟨hnames, hspan⟩⟩
  refine ⟨hiff, ?_, ?_⟩
  · intro span hspan
    rcases (resolve_iff_of_lt hcount).mp hspan with ⟨-, hstart, hstop, hwhole⟩
    refine ⟨hstart, hstop, Nat.add_sub_cancel' span.start_le_stop, ?_, ?_, ?_⟩
    · rw [indices_eq, hstart, hstop]
    · rw [isHead, beq_iff_eq, hstart]
    · rw [isTail, beq_iff_eq, hstop, hwhole]
  · intro hnone
    cases hresolve : resolve bounds count with
    | ok span => exact absurd (hiff.mp ⟨span, hresolve⟩) hnone
    | error refusal => exact ⟨refusal, rfl⟩

/-- Bounds behind the second of five properties and up to the fourth, and the largest word as an index that is to be
inside: it is behind all properties that a smaller word can count. -/
theorem resolve_exact_largestWord :
    (∃ span, resolve ⟨.excluded 1, .included 3⟩ 5 = .ok span ∧ span.indices = [2, 3] ∧ span.isTail = false) ∧
    ∃ refusal, (liftM (resolve ⟨.unbounded, .included 0xFFFF_FFFF_FFFF_FFFF⟩ 0xFFFF_FFFF_FFFF_FFFE) :
      Except Fault Span) = .error (.illegal refusal) := by
  constructor
  · rcases @resolve_exact 5 (by decide) ⟨.excluded 1, .included 3⟩ with ⟨hiff, hspans, -⟩
    have hnames : NamesSpan ⟨.excluded 1, .included 3⟩ 5 :=
      ⟨by simp [Bound.firstIndex?], by simp [Bound.indexBehind?], by decide⟩
    rcases hiff.mpr hnames with ⟨span, hspan⟩
    rcases hspans span hspan with ⟨-, -, -, hindices, -, htail⟩
    exact ⟨span, hspan, hindices, Bool.eq_false_iff.mpr (mt htail.mp (by decide))⟩
  · rcases @resolve_exact 0xFFFF_FFFF_FFFF_FFFE (by decide) ⟨.unbounded, .included 0xFFFF_FFFF_FFFF_FFFF⟩ with
      ⟨-, -, hrefused⟩
    exact hrefused fun hnames => absurd (hnames.stop_le _ rfl) (by decide)

/-- Where the count is the largest word itself, an end behind it is cut off to one that lies inside. -/
example : resolve ⟨.unbounded, .included 0xFFFF_FFFF_FFFF_FFFF⟩ 0xFFFF_FFFF_FFFF_FFFF =
    .ok (full 0xFFFF_FFFF_FFFF_FFFF) := rfl

end Span
end RecordBytes
