import Mathlib
import RecordBytes.Proofs.Compact.Scanning
import RecordBytes.Proofs.Layout.Reading
import RecordBytes.Proofs.Sortable.Scanning

/-!
# Scanning runs of cells

Whatever bytes are next, the reader of a run keeps to those it moves over, which are never fewer than the least
length of the run, and passing over cells gets to where reading them does.  A run can so be read in parts, each
behind the cells before it, and what the parts give is what the whole gives.

Main results:

- `Reading.upToEnd_eq_ok`, `Reading.upToEnd_of_left`: reading that has to reach the end of the bytes.
- `Field.confined_read`, `Cells.confined_read`: the reader keeps to the cell, and to the run.
- `Field.skip_of_read`, `Cells.skip_of_read`: what can be read can be passed over, up to the same place.
- `Cells.read_append`: a run read in two parts.
- `Cells.read_of_fields`: a run whose cells can be read one by one.
-/

namespace RecordBytes

/-- A fault of the bytes that is no mismatch of generations. -/
def Fault.IsPlain (fault : Fault) : Prop :=
  fault.isCorrupt = true ∧ fault.generations = none

/-- Plain damage is a plain fault. -/
theorem Damage.IsPlain.corrupt {damage : Damage} (h : damage.IsPlain) : (Fault.corrupt damage).IsPlain :=
  ⟨rfl, h⟩

/-- Plain damage of a property is plain damage. -/
theorem Damage.IsPlain.inProperty {damage : Damage} (h : damage.IsPlain) (name : String) :
    (Damage.inProperty name damage).IsPlain := h

/-- A scan as a step of reading keeps to the bytes that the scan moves over. -/
theorem Reading.confined_ofScan {α : Type} {scan : Scan α} {least : Nat} (h : Scan.Confined least scan) :
    Confined Fault.IsPlain least (Reading.ofScan scan) := by
  apply h.convert
  · intro cursor
    unfold Reading.ofScan
    cases scan cursor <;> rfl
  · exact fun damage hdamage => hdamage.corrupt

/-! ## Up to the end -/

namespace Reading

variable {α : Type} {reading : Reading α} {damage : Nat → Damage} {cursor after : Cursor} {found : α}

/-- A step of reading that has to reach the end of the bytes. -/
def upToEnd (reading : Reading α) (damage : Nat → Damage) : Reading α := do
  let found ← reading
  let remaining := (← get).remaining
  if remaining ≠ 0 then throw (.corrupt (damage remaining))
  return found

/-- The end is reached when nothing is left unread. -/
theorem upToEnd_of_end (h : reading cursor = .ok found after) (hend : after.unread = []) :
    reading.upToEnd damage cursor = .ok found after := by
  have hremaining : after.remaining = 0 := by simp [Cursor.remaining, hend]
  simp [upToEnd, Bind.bind, EStateM.bind, h, MonadState.get, getThe, MonadStateOf.get, EStateM.get, hremaining,
    pure, EStateM.pure]

/-- Bytes left unread are damage. -/
theorem upToEnd_of_left (h : reading cursor = .ok found after) (hleft : after.unread ≠ []) :
    reading.upToEnd damage cursor = .error (.corrupt (damage after.unread.length)) after := by
  have hremaining : after.remaining ≠ 0 := by simpa [Cursor.remaining] using hleft
  simp [upToEnd, Bind.bind, EStateM.bind, h, MonadState.get, getThe, MonadStateOf.get, EStateM.get, hremaining,
    throw, throwThe, MonadExceptOf.throw, EStateM.throw]
  rfl

theorem upToEnd_of_error {fault : Fault} (h : reading cursor = .error fault after) :
    reading.upToEnd damage cursor = .error fault after := by
  simp [upToEnd, Bind.bind, EStateM.bind, h]

theorem upToEnd_eq_ok : reading.upToEnd damage cursor = .ok found after ↔
    reading cursor = .ok found after ∧ after.unread = [] := by
  cases hrun : reading cursor with
  | error fault middle => simp [upToEnd_of_error hrun]
  | ok given middle =>
    by_cases hend : middle.unread = []
    · rw [upToEnd_of_end hrun hend]
      constructor
      · intro h
        cases h
        exact ⟨rfl, hend⟩
      · exact fun h => h.1
    · rw [upToEnd_of_left hrun hend]
      simp only [reduceCtorEq, false_iff, not_and]
      intro h
      cases h
      exact hend

end Reading

/-! ## Fields -/

namespace Field

variable {form : Form} {field : Field} {Blames : Fault → Prop}

/-- A scan of a field's cell keeps to the cell as the scan does. -/
theorem confined_scanning {α : Type} {scan : Scan α} {least : Nat}
    (hplain : ∀ fault, Fault.IsPlain fault → Blames fault) (h : Scan.Confined least scan) :
    Confined Blames least (field.scanning scan) := by
  apply h.convert
  · intro cursor
    unfold scanning
    cases scan cursor <;> rfl
  · exact fun damage hdamage => hplain _ (hdamage.inProperty field.name).corrupt

theorem confined_setMask (mask : UInt8) : Scan.Confined 0 (Scan.setMask mask) where
  moves := by
    rintro cursor after _ ⟨⟩
    exact ⟨[], rfl, Nat.le_refl _, fun behind => rfl⟩
  blames := by
    rintro cursor after damage ⟨⟩

theorem confined_scan (form : Form) (field : Field) :
    Scan.Confined (field.leastSize form) (field.scan form) := by
  cases form with
  | sortable =>
    have hboth := (confined_setMask (field.mask .sortable)).bind fun _ =>
      Sortable.confined_read field.kind field.nullable
    rwa [Nat.zero_add] at hboth
  | compact =>
    have hboth := (confined_setMask (field.mask .compact)).bind fun _ =>
      Compact.confined_read field.kind field.nullable
    rwa [Nat.zero_add] at hboth

/-- What the field's adapter refuses with is allowed. -/
def AdaptsWithin (Blames : Fault → Prop) (field : Field) : Prop :=
  ∀ (stored : Value) (fault : Fault), field.logical stored = .error fault → Blames fault

/-- A field refuses as its adapter does, and a missing value not at all. -/
theorem adaptsWithin_of_load (h : ∀ adapter, field.property.adapter = some adapter →
    ∀ stored fault, adapter.load stored = .error fault → Blames fault) : field.AdaptsWithin Blames := by
  intro stored fault hrefused
  cases hadapter : field.property.adapter with
  | none =>
    rw [logical_of_plain hadapter] at hrefused
    cases hrefused
  | some adapter =>
    by_cases hnull : stored = .null
    · rw [hnull, logical_null] at hrefused
      cases hrefused
    · rw [logical_of_adapter hadapter hnull] at hrefused
      exact h adapter hadapter stored fault hrefused

/-- A field without an adapter refuses nothing. -/
theorem adaptsWithin_of_plain (h : field.property.adapter = none) : field.AdaptsWithin Blames :=
  adaptsWithin_of_load fun _ hadapter => by cases h.symm.trans hadapter

/-- The reader of a field's cell keeps to the bytes it moves over, as many as the shortest cell has. -/
theorem confined_read (hplain : ∀ fault, Fault.IsPlain fault → Blames fault)
    (hadapter : field.AdaptsWithin Blames) : Confined Blames (field.leastSize form) (field.read form) := by
  apply (confined_scanning hplain (confined_scan form field)).bind_free
  intro stored
  cases hlogical : field.logical stored with
  | ok value => exact Confined.pure value
  | error fault => exact Confined.throw (hadapter stored fault hlogical)

theorem scanning_eq_ok {α : Type} {scan : Scan α} {cursor after : Cursor} {found : α} :
    field.scanning scan cursor = .ok found after ↔ scan cursor = .ok found after := by
  unfold scanning
  cases scan cursor with
  | ok given middle => simp
  | error damage middle => simp

/-- A cell that can be read can be passed over, up to the same place. -/
theorem skip_of_read {cursor after : Cursor} {value : Value} (h : field.read form cursor = .ok value after) :
    field.skip form cursor = .ok () after := by
  rcases Reading.bind_eq_ok.mp h with ⟨stored, middle, hscanning, hlogical⟩
  rcases Reading.ofExcept_eq_ok.mp hlogical with ⟨-, rfl⟩
  have hscan := scanning_eq_ok.mp hscanning
  apply scanning_eq_ok.mpr
  cases form with
  | sortable =>
    have hpassed := Scan.PassedBy.behind (Scan.setMask (field.mask .sortable)) fun _ =>
      Sortable.passedBy_skip field.kind field.nullable
    exact hpassed.skip_of_read hscan
  | compact =>
    have hpassed := Scan.PassedBy.behind (Scan.setMask (field.mask .compact)) fun _ =>
      Compact.passedBy_skip field.kind field.nullable
    exact hpassed.skip_of_read hscan

end Field

/-! ## Runs -/

namespace Cells

variable {form : Form} {Blames : Fault → Prop}

/-- The reader of a run keeps to the bytes it moves over, as many as the shortest run has. -/
theorem confined_read (hplain : ∀ fault, Fault.IsPlain fault → Blames fault) {fields : List Field}
    (hadapters : ∀ field ∈ fields, field.AdaptsWithin Blames) :
    Confined Blames (leastSize form fields) (read form fields) := by
  induction fields with
  | nil => exact Confined.pure []
  | cons field fields ih =>
    apply (Field.confined_read hplain (hadapters field List.mem_cons_self)).bind
    intro first
    have hothers := ih fun next hnext => hadapters next (List.mem_cons_of_mem _ hnext)
    exact hothers.bind_free fun rest => Confined.pure _

/-- Whatever the adapters refuse with, the reader of a run keeps to the bytes it moves over. -/
theorem confined_read_any (form : Form) (fields : List Field) :
    Confined (fun _ => True) (leastSize form fields) (read form fields) :=
  confined_read (fun _ _ => trivial) fun _ _ _ _ _ => trivial

/-- Without adapters, the reader of a run finds nothing but plain damage. -/
theorem confined_read_plain {fields : List Field} (hplain : ∀ field ∈ fields, field.property.adapter = none) :
    Confined Fault.IsPlain (leastSize form fields) (read form fields) :=
  confined_read (fun _ hfault => hfault) fun field hfield => Field.adaptsWithin_of_plain (hplain field hfield)

theorem read_cons {field : Field} {fields : List Field} {cursor after : Cursor} {values : List Value} :
    read form (field :: fields) cursor = .ok values after ↔
      ∃ first rest middle, field.read form cursor = .ok first middle ∧
        read form fields middle = .ok rest after ∧ first :: rest = values := by
  rw [read, Reading.bind_eq_ok]
  constructor
  · rintro ⟨first, middle, hfirst, hothers⟩
    rcases Reading.bind_eq_ok.mp hothers with ⟨rest, last, hrest, hvalues⟩
    rcases Reading.pure_eq_ok.mp hvalues with ⟨rfl, rfl⟩
    exact ⟨first, rest, middle, hfirst, hrest, rfl⟩
  · rintro ⟨first, rest, middle, hfirst, hrest, rfl⟩
    exact ⟨first, middle, hfirst, Reading.bind_eq_ok.mpr ⟨rest, after, hrest, rfl⟩⟩

theorem skip_cons {field : Field} {fields : List Field} {cursor after : Cursor} :
    skip form (field :: fields) cursor = .ok () after ↔
      ∃ middle, field.skip form cursor = .ok () middle ∧ skip form fields middle = .ok () after := by
  rw [skip, Reading.bind_eq_ok]
  constructor
  · rintro ⟨_, middle, hfirst, hothers⟩
    exact ⟨middle, hfirst, hothers⟩
  · rintro ⟨middle, hfirst, hothers⟩
    exact ⟨(), middle, hfirst, hothers⟩

/-- A run read gives one value for each field. -/
theorem length_read {fields : List Field} {cursor after : Cursor} {values : List Value}
    (h : read form fields cursor = .ok values after) : values.length = fields.length := by
  induction fields generalizing cursor values with
  | nil =>
    rcases Reading.pure_eq_ok.mp h with ⟨rfl, -⟩
    rfl
  | cons field fields ih =>
    rcases read_cons.mp h with ⟨first, rest, middle, -, hrest, rfl⟩
    rw [List.length_cons, List.length_cons, ih hrest]

/-- Two runs one behind the other are read one after the other. -/
theorem read_append {front back : List Field} {cursor after : Cursor} {values : List Value} :
    read form (front ++ back) cursor = .ok values after ↔
      ∃ first rest middle, read form front cursor = .ok first middle ∧
        read form back middle = .ok rest after ∧ first ++ rest = values := by
  induction front generalizing cursor values with
  | nil =>
    constructor
    · intro h
      exact ⟨[], values, cursor, rfl, h, rfl⟩
    · rintro ⟨first, rest, middle, hfirst, hrest, rfl⟩
      rcases Reading.pure_eq_ok.mp hfirst with ⟨rfl, rfl⟩
      exact hrest
  | cons field front ih =>
    constructor
    · intro h
      rcases read_cons.mp h with ⟨head, others, place, hhead, hothers, rfl⟩
      rcases ih.mp hothers with ⟨first, rest, middle, hfirst, hrest, rfl⟩
      exact ⟨head :: first, rest, middle, read_cons.mpr ⟨head, first, place, hhead, hfirst, rfl⟩, hrest, rfl⟩
    · rintro ⟨first, rest, middle, hfront, hrest, rfl⟩
      rcases read_cons.mp hfront with ⟨head, first, place, hhead, hfirst, rfl⟩
      have hothers := ih.mpr ⟨first, rest, middle, hfirst, hrest, rfl⟩
      exact read_cons.mpr ⟨head, first ++ rest, place, hhead, hothers, rfl⟩

/-- A run that can be read can be passed over, up to the same place. -/
theorem skip_of_read {fields : List Field} {cursor after : Cursor} {values : List Value}
    (h : read form fields cursor = .ok values after) : skip form fields cursor = .ok () after := by
  induction fields generalizing cursor values with
  | nil =>
    rcases Reading.pure_eq_ok.mp h with ⟨-, rfl⟩
    rfl
  | cons field fields ih =>
    rcases read_cons.mp h with ⟨first, rest, middle, hfirst, hrest, -⟩
    exact skip_cons.mpr ⟨middle, Field.skip_of_read hfirst, ih hrest⟩

/-- In a run that can be read, each cell can be read behind the cells before it passed over. -/
theorem read_at {fields : List Field} {cursor after : Cursor} {values : List Value}
    (h : read form fields cursor = .ok values after) {index : Nat} {field : Field} {value : Value}
    (hfield : fields[index]? = some field) (hvalue : values[index]? = some value) :
    ∃ middle stop, skip form (fields.take index) cursor = .ok () middle ∧
      field.read form middle = .ok value stop := by
  induction fields generalizing cursor values index with
  | nil => cases hfield
  | cons first fields ih =>
    rcases read_cons.mp h with ⟨head, rest, middle, hhead, hrest, rfl⟩
    cases index with
    | zero =>
      rcases Option.some.inj hfield with rfl
      rcases Option.some.inj hvalue with rfl
      exact ⟨cursor, middle, rfl, hhead⟩
    | succ index =>
      rw [List.getElem?_cons_succ] at hfield hvalue
      rcases ih hrest hfield hvalue with ⟨place, stop, hskip, hread⟩
      exact ⟨place, stop, skip_cons.mpr ⟨middle, Field.skip_of_read hhead, hskip⟩, hread⟩

/-- A run can be read when its cells can, each of them behind the cells before it passed over. -/
theorem read_of_fields {fields : List Field} {cursor : Cursor} {values : List Value}
    (hlength : values.length = fields.length)
    (h : ∀ (index : Nat) (field : Field) (value : Value), fields[index]? = some field →
      values[index]? = some value → ∃ middle after,
        skip form (fields.take index) cursor = .ok () middle ∧ field.read form middle = .ok value after) :
    ∃ after, read form fields cursor = .ok values after := by
  induction fields generalizing cursor values with
  | nil =>
    rcases List.length_eq_zero_iff.mp hlength with rfl
    exact ⟨cursor, rfl⟩
  | cons field fields ih =>
    rcases List.exists_cons_of_length_eq_add_one hlength with ⟨first, rest, rfl⟩
    rcases h 0 field first rfl rfl with ⟨start, middle, hstart, hfirst⟩
    rcases Reading.pure_eq_ok.mp hstart with ⟨-, rfl⟩
    have hpassed := Field.skip_of_read hfirst
    have hothers : ∃ after, read form fields middle = .ok rest after := by
      apply ih (Nat.succ.inj hlength)
      intro index next value hnext hvalue
      rcases h (index + 1) next value hnext hvalue with ⟨place, after, hplace, hread⟩
      rcases skip_cons.mp hplace with ⟨middle', hpassed', hrest⟩
      rw [hpassed] at hpassed'
      cases hpassed'
      exact ⟨place, after, hrest, hread⟩
    rcases hothers with ⟨after, hrest⟩
    exact ⟨after, read_cons.mpr ⟨first, rest, middle, hfirst, hrest, rfl⟩⟩

end Cells
end RecordBytes
