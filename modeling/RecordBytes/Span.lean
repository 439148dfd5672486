import RecordBytes.Fault.Basic

/-!
# Spans of a property list

A caller names a stretch of properties by two bounds, each absent, included or excluded.  Resolving them
against the number of properties gives a span that lies inside.  One is added to an excluded start and to
an included end; the sum stops at the largest 64-bit number, which no property count reaches.

Main definitions:

- `Bounds`: a stretch as a caller names it.
- `Span`: a stretch that lies inside a list of properties.
- `Span.resolve`: the span that bounds name, or why they name none.
-/

namespace RecordBytes

/-- One end of a stretch. -/
inductive Bound
  | unbounded
  | included (index : Nat)
  | excluded (index : Nat)
deriving DecidableEq, Repr

/-- A stretch of properties as a caller names it. -/
structure Bounds where
  start : Bound
  stop : Bound
deriving DecidableEq, Repr

/-- The bounds of the whole list. -/
def Bounds.all : Bounds := ⟨.unbounded, .unbounded⟩

/-- The bounds of the first `count` properties. -/
def Bounds.upTo (count : Nat) : Bounds := ⟨.unbounded, .excluded count⟩

/-- The next index, or the largest 64-bit number where there is none. -/
def nextIndex (index : Nat) : Nat :=
  min (index + 1) 0xFFFF_FFFF_FFFF_FFFF

/-- The first index of a stretch with this start, where one is given. -/
def Bound.first? : Bound → Option Nat
  | unbounded => none
  | included index => some index
  | excluded index => some (nextIndex index)

/-- The index behind a stretch with this end, where one is given. -/
def Bound.behind? : Bound → Option Nat
  | unbounded => none
  | included index => some (nextIndex index)
  | excluded index => some index

/-- The properties from `start` up to but not including `stop`, out of `count`. -/
structure Span where
  start : Nat
  stop : Nat
  count : Nat
  start_le_stop : start ≤ stop
  stop_le_count : stop ≤ count
deriving DecidableEq, Repr

namespace Span

/-- The span of all properties. -/
def full (count : Nat) : Span :=
  ⟨0, count, count, Nat.zero_le _, Nat.le_refl _⟩

/-- The number of properties in the span. -/
def size (span : Span) : Nat :=
  span.stop - span.start

/-- Whether the span begins where the list does. -/
def isHead (span : Span) : Bool :=
  span.start == 0

/-- Whether the span ends where the list does. -/
def isTail (span : Span) : Bool :=
  span.stop == span.count

/-- The indices in the span, in increasing order. -/
def indices (span : Span) : List Nat :=
  (List.range span.size).map (span.start + ·)

/-- The span that bounds name among `count` properties.  A given start has to be a property, a given end
at most the count, and the start not past the end. -/
def resolve (bounds : Bounds) (count : Nat) : Except Refusal Span :=
  let start := bounds.start.first?
  let stop := bounds.stop.behind?
  if count ≤ start.getD 0 ∧ start.isSome then .error (.startOutOfRange (start.getD 0) count)
  else if hstop : count < stop.getD count then .error (.stopOutOfRange (stop.getD count) count)
  else if hstart : stop.getD count < start.getD 0 then
    .error (.startPastStop (start.getD 0) (stop.getD count))
  else
    .ok ⟨start.getD 0, stop.getD count, count, Nat.le_of_not_lt hstart, Nat.le_of_not_lt hstop⟩

/-- The items in the span, where the list is long enough. -/
def of? {α : Type} (span : Span) (items : List α) : Option (List α) :=
  slice? items span.start span.stop

end Span
end RecordBytes
