import Mathlib
import RecordBytes.Proofs.Data.RoundTrip
import RecordBytes.Proofs.Layout.Scanning

/-!
# Scanning data

A reader of data, of all values or of one, first takes off the padding and looks at the generation.  Where that
is the expected one, it stands at the first cell, and what it finds from there on is the outcome.

Main results:

- `DataLayout.decode_eq_ok`, `DataLayout.decodeField_eq_ok`: what is read from the first cell on.
- `DataLayout.decode_of_left`: data is refused for the bytes left behind its last cell.
- `DataLayout.Opens.decode_without_left`: without them it is read.
-/

namespace RecordBytes.DataLayout

open Outcome

variable {layout : DataLayout} {bytes : Bytes} {expected : Option Nat}

/-! ## Generations -/

theorem confined_readForeign (expected : Option Nat) :
    Confined Fault.IsPlain (if expected.isSome then 1 else 0) (readForeign expected) := by
  cases expected with
  | none => exact Confined.pure none
  | some number =>
    have hread := Reading.confined_ofScan Generation.confined_read
    exact hread.bind_free fun actual => Confined.pure _

theorem readBehind_eq_current {α : Type} {inner : Reading α} {cursor after : Cursor} {found : α} :
    readBehind expected inner cursor = .ok (.current found) after ↔
      ∃ middle, readForeign expected cursor = .ok none middle ∧ inner middle = .ok found after := by
  unfold readBehind
  rw [Reading.bind_eq_ok]
  constructor
  · rintro ⟨foreign, middle, hforeign, hrest⟩
    cases foreign with
    | some generation => cases (Reading.pure_eq_ok.mp hrest).1
    | none =>
      rcases Reading.bind_eq_ok.mp hrest with ⟨given, last, hinner, hfound⟩
      rcases Reading.pure_eq_ok.mp hfound with ⟨hsame, rfl⟩
      cases hsame
      exact ⟨middle, hforeign, hinner⟩
  · rintro ⟨middle, hforeign, hinner⟩
    exact ⟨none, middle, hforeign, Reading.bind_eq_ok.mpr ⟨found, after, hinner, rfl⟩⟩

theorem readBehind_eq_foreign {α : Type} {inner : Reading α} {cursor after : Cursor} {generation : Nat} :
    readBehind expected inner cursor = .ok (.foreign generation) after ↔
      readForeign expected cursor = .ok (some generation) after := by
  unfold readBehind
  rw [Reading.bind_eq_ok]
  constructor
  · rintro ⟨foreign, middle, hforeign, hrest⟩
    cases foreign with
    | some given =>
      rcases Reading.pure_eq_ok.mp hrest with ⟨hsame, rfl⟩
      cases hsame
      exact hforeign
    | none =>
      rcases Reading.bind_eq_ok.mp hrest with ⟨given, last, -, hfound⟩
      cases (Reading.pure_eq_ok.mp hfound).1
  · intro hforeign
    exact ⟨some generation, after, hforeign, rfl⟩

theorem currentOnly_eq_ok {α : Type} {outcome : Outcome α} {found : α} :
    currentOnly expected outcome = .ok found ↔ outcome = .current found := by
  cases outcome with
  | current given => simp [currentOnly]
  | foreign actual => simp [currentOnly]

/-! ## The first cell -/

/-- The cursor stands at the first cell of data, behind the expected generation. -/
def Opens (layout : DataLayout) (bytes : Bytes) (expected : Option Nat) (cursor : Cursor) : Prop :=
  ∃ body, layout.body bytes expected = .ok body ∧
    readForeign expected (Cursor.start body 0) = .ok none cursor

/-- There is one first cell. -/
theorem Opens.unique {cursor other : Cursor} (h : layout.Opens bytes expected cursor)
    (hother : layout.Opens bytes expected other) : cursor = other := by
  rcases h with ⟨body, hbody, hforeign⟩
  rcases hother with ⟨body', hbody', hforeign'⟩
  rcases Except.ok.inj (hbody.symm.trans hbody') with rfl
  rw [hforeign] at hforeign'
  cases hforeign'
  rfl

/-- What is read of data of the expected generation is read from its first cell on. -/
theorem current_eq_ok {α : Type} {inner : Reading α} {found : α} :
    (do
      let body ← layout.body bytes expected
      let (outcome, _) ← (readBehind expected inner).runOn body
      currentOnly expected outcome) = .ok found ↔
      ∃ cursor after, layout.Opens bytes expected cursor ∧ inner cursor = .ok found after := by
  simp only [bind_eq_ok, Prod.exists, Reading.runOn_eq_ok, currentOnly_eq_ok]
  constructor
  · rintro ⟨body, hbody, outcome, after, hrun, rfl⟩
    rcases readBehind_eq_current.mp hrun with ⟨middle, hforeign, hinner⟩
    exact ⟨middle, after, ⟨body, hbody, hforeign⟩, hinner⟩
  · rintro ⟨middle, after, ⟨body, hbody, hforeign⟩, hinner⟩
    exact ⟨body, hbody, _, after, readBehind_eq_current.mpr ⟨middle, hforeign, hinner⟩, rfl⟩

theorem decode_eq_ok {values : List Value} :
    layout.decode bytes expected = .ok values ↔
      ∃ cursor after, layout.Opens bytes expected cursor ∧ layout.readValues cursor = .ok values after := by
  rw [← current_eq_ok, decode, decodeChecked]
  simp only [bind_assoc, pure_bind]

theorem decodeField_eq_ok {index : Nat} {field : Field} (hfield : layout.fields[index]? = some field)
    {value : Value} :
    layout.decodeField bytes expected index = .ok value ↔
      ∃ cursor after, layout.Opens bytes expected cursor ∧
        layout.readField index field cursor = .ok value after := by
  rw [← current_eq_ok, decodeField, hfield]

theorem decodeChecked_eq_foreign {actual : Nat} :
    layout.decodeChecked bytes expected = .ok (.foreign actual) ↔
      ∃ body after, layout.body bytes expected = .ok body ∧
        readForeign expected (Cursor.start body 0) = .ok (some actual) after := by
  unfold decodeChecked
  simp only [bind_eq_ok, Prod.exists, Reading.runOn_eq_ok, pure_eq_ok]
  constructor
  · rintro ⟨body, hbody, outcome, after, hrun, rfl⟩
    exact ⟨body, after, hbody, readBehind_eq_foreign.mp hrun⟩
  · rintro ⟨body, after, hbody, hforeign⟩
    exact ⟨body, hbody, _, after, readBehind_eq_foreign.mpr hforeign, rfl⟩

/-- A generation is foreign where another one is expected. -/
theorem expected_of_readForeign {actual : Nat} {cursor after : Cursor}
    (h : readForeign expected cursor = .ok (some actual) after) : ∃ number, expected = some number := by
  cases expected with
  | some number => exact ⟨number, rfl⟩
  | none => cases (Reading.pure_eq_ok.mp h).1

/-! ## The last cell -/

theorem readValues_of_not_bare (hbare : layout.bare? = none) :
    layout.readValues = (Cells.read .compact layout.fields).upToEnd .afterData := by
  rw [readValues, hbare]
  rfl

/-- Data holds a value for each field. -/
theorem length_of_decode {values : List Value} (h : layout.decode bytes expected = .ok values) :
    values.length = layout.fields.length := by
  rcases decode_eq_ok.mp h with ⟨cursor, after, -, hread⟩
  cases hbare : layout.bare? with
  | none =>
    rw [readValues_of_not_bare hbare, Reading.upToEnd_eq_ok] at hread
    exact Cells.length_read hread.1
  | some field =>
    rw [readValues, hbare, Reading.bind_eq_ok] at hread
    rcases hread with ⟨value, middle, -, hvalues⟩
    rcases Reading.pure_eq_ok.mp hvalues with ⟨rfl, -⟩
    rw [(bare?_eq_some hbare).1]
    rfl

theorem leastSize_of_not_bare (hbare : layout.bare? = none) :
    layout.leastSize = layout.padding.size + Cells.leastSize .compact layout.fields := by
  rw [leastSize, hbare]
  rfl

/-- Data is refused for the bytes that its cells leave in front of the padding. -/
theorem decode_of_left (hbare : layout.bare? = none) {cursor after : Cursor} {values : List Value}
    (hopens : layout.Opens bytes expected cursor)
    (hread : Cells.read .compact layout.fields cursor = .ok values after) (hleft : after.unread ≠ []) :
    layout.decode bytes expected = .error (.corrupt (.afterData after.unread.length)) := by
  rcases hopens with ⟨body, hbody, hforeign⟩
  have hvalues : layout.readValues cursor = .error (.corrupt (.afterData after.unread.length)) after := by
    rw [readValues_of_not_bare hbare]
    exact Reading.upToEnd_of_left hread hleft
  have hrun : (readBehind expected layout.readValues).runOn body =
      .error (.corrupt (.afterData after.unread.length)) := by
    simp [Reading.runOn, readBehind, Bind.bind, EStateM.bind, hforeign, hvalues]
  simp [decode, decodeChecked, hbody, hrun]

/-- Without the bytes that its cells leave in front of the padding, data can be read. -/
theorem Opens.decode_without_left (hbare : layout.bare? = none) {cursor after : Cursor} {values : List Value}
    (hopens : layout.Opens bytes expected cursor)
    (hread : Cells.read .compact layout.fields cursor = .ok values after) :
    ∃ front back, front ++ after.unread ++ back = bytes ∧ back.length = layout.padding.after ∧
      layout.decode (front ++ back) expected = .ok values := by
  rcases hopens with ⟨body, hbody, hforeign⟩
  rcases body_eq_ok.mp hbody with ⟨-, hstrip⟩
  rcases Padding.strip?_eq_some.mp hstrip with ⟨front, back, hfront, hback, rfl⟩
  rcases (confined_readForeign expected).moves hforeign with ⟨tag, htag, htagLeast, htagAgain⟩
  rcases (Cells.confined_read_any _ _).moves hread with ⟨moved, hmoved, hleast, hagain⟩
  have hwithout := hagain []
  rw [List.append_nil] at hwithout
  refine ⟨front ++ (tag ++ moved), back, ?_, hback, ?_⟩
  · have hparts : body = tag ++ (moved ++ after.unread) := by rw [← hmoved, ← htag]; rfl
    rw [hparts]
    simp only [List.append_assoc]
  · have hstripped : layout.padding.strip? (front ++ (tag ++ moved) ++ back) = some (tag ++ moved) :=
      Padding.strip?_eq_some.mpr ⟨front, back, hfront, hback, rfl⟩
    have hneeded : layout.leastSizeWith expected ≤ (front ++ (tag ++ moved) ++ back).length := by
      rw [leastSizeWith, leastSize_of_not_bare hbare, Padding.size]
      simp only [List.length_append]
      omega
    rw [decode_eq_ok, readValues_of_not_bare hbare]
    refine ⟨cursor.facing moved, after.facing [], ⟨tag ++ moved, ?_, htagAgain moved⟩, ?_⟩
    · exact body_eq_ok.mpr ⟨hneeded, hstripped⟩
    · exact Reading.upToEnd_of_end hwithout rfl

end RecordBytes.DataLayout
