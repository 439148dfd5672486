import Mathlib
import RecordBytes.Proofs.Data.Scanning
import RecordBytes.Proofs.Key.Parts
import RecordBytes.Proofs.Snapshot.Written

/-!
# What reading fails with

Whatever the bytes are, a reader of any layout fails with damage that is no mismatch of generations, or with
what an adapter refuses with.  A reader of data adds the mismatch, and nothing else: no stretch of a buffer or of
a field list that it asks for is outside.

Main results:

- `Cells.failsWith_read`, `Cells.failsWith_skip`: runs of cells.
- `KeyLayout.failsWith_decodeSpan`, `KeyLayout.failsWith_decodePart`: keys and parts of keys.
- `DataLayout.failsWith_decodeChecked`: data; `DataLayout.failsWith_decode` and
  `DataLayout.failsWith_decodeField` say when its generation is at fault.
- `SnapshotLayout.failsWith_contents`: snapshots.
-/

namespace RecordBytes

open Outcome

/-! ## Steps of reading -/

namespace Reading

variable {α β : Type} {Blames : Fault → Prop}

/-- A step of reading that fails with nothing but the faults that `Blames` allows. -/
def FailsWith (Blames : Fault → Prop) (reading : Reading α) : Prop :=
  ∀ (cursor after : Cursor) (fault : Fault), reading cursor = .error fault after → Blames fault

theorem failsWith_of_confined {reading : Reading α} {least : Nat} (h : Confined Blames least reading) :
    FailsWith Blames reading :=
  fun _ _ _ => h.blames

theorem failsWith_pure (found : α) : FailsWith Blames (pure found : Reading α) :=
  failsWith_of_confined (Confined.pure found)

theorem failsWith_throw {fault : Fault} (h : Blames fault) : FailsWith Blames (throw fault : Reading α) := by
  rintro cursor after _ ⟨⟩
  exact h

theorem failsWith_ofExcept {outcome : Except Fault α} (h : Outcome.FailsWith Blames outcome) :
    FailsWith Blames (ofExcept outcome) := by
  cases outcome with
  | ok found => exact failsWith_pure found
  | error fault => exact failsWith_throw (h fault rfl)

/-- A step behind a step fails with the faults of both alone. -/
theorem FailsWith.bind {reading : Reading α} {next : α → Reading β} (h : FailsWith Blames reading)
    (hnext : ∀ found, FailsWith Blames (next found)) : FailsWith Blames (reading >>= next) := by
  intro cursor after fault hrun
  simp only [Bind.bind, EStateM.bind] at hrun
  cases hfirst : reading cursor with
  | ok found middle =>
    rw [hfirst] at hrun
    exact hnext found middle after fault hrun
  | error fault' middle =>
    rw [hfirst] at hrun
    cases hrun
    exact h cursor after fault hfirst

theorem FailsWith.runOn {reading : Reading α} (h : FailsWith Blames reading) (bytes : Bytes) :
    Outcome.FailsWith Blames (reading.runOn bytes) := by
  intro fault hrun
  unfold Reading.runOn at hrun
  cases hreading : reading (Cursor.start bytes 0) with
  | ok found after => simp [hreading] at hrun
  | error fault' after =>
    rw [hreading] at hrun
    cases hrun
    exact h _ after fault hreading

/-- Reading up to the end fails with the faults of the reading, or for the bytes left over. -/
theorem FailsWith.upToEnd {reading : Reading α} {damage : Nat → Damage} (h : FailsWith Blames reading)
    (hleft : ∀ count, Blames (.corrupt (damage count))) : FailsWith Blames (reading.upToEnd damage) := by
  intro cursor after fault hrun
  cases hreading : reading cursor with
  | error fault' middle =>
    rw [upToEnd_of_error hreading] at hrun
    cases hrun
    exact h cursor after fault hreading
  | ok found middle =>
    by_cases hend : middle.unread = []
    · rw [upToEnd_of_end hreading hend] at hrun
      cases hrun
    · rw [upToEnd_of_left hreading hend] at hrun
      cases hrun
      exact hleft _

end Reading

/-! ## Fields and runs of cells -/

/-- What a property is reset to is loaded by its adapter, if it is not known without. -/
theorem Field.failsWith_zero {Blames : Fault → Prop} {field : Field} (hadapter : field.AdaptsWithin Blames) :
    FailsWith Blames field.zero := by
  intro fault hzero
  unfold zero at hzero
  split at hzero
  · next name adapter _ hadapted =>
    have hstorage : adapter.storage = .plain field.kind := by
      rw [← field.storage_eq, Property.storage, hadapted]
    split at hzero
    · cases hzero
    · -- The zero of the storage type is a value that is there, so it is loaded as any stored one.
      apply hadapter (Value.zero field.kind false) fault
      rw [hstorage] at hzero
      rw [logical, hadapted]
      exact hzero
  · cases hzero

section

variable {Blames : Fault → Prop} (hplain : ∀ fault, Fault.IsPlain fault → Blames fault) {form : Form}

include hplain

theorem Field.failsWith_read {field : Field} (hadapter : field.AdaptsWithin Blames) :
    Reading.FailsWith Blames (field.read form) :=
  Reading.failsWith_of_confined (confined_read hplain hadapter)

/-- Passing over a cell fails with damage that reading it would find. -/
theorem Field.failsWith_skip (form : Form) (field : Field) : Reading.FailsWith Blames (field.skip form) := by
  intro cursor after fault hskip
  unfold skip scanning at hskip
  split at hskip
  · cases hskip
  · next damage middle hscan =>
    cases hskip
    apply hplain
    have hread : ∃ after', field.scan form cursor = .error damage after' := by
      cases form with
      | sortable =>
        exact (Scan.PassedBy.behind (Scan.setMask _) fun _ => Sortable.passedBy_skip _ _).error_of_skip hscan
      | compact =>
        exact (Scan.PassedBy.behind (Scan.setMask _) fun _ => Compact.passedBy_skip _ _).error_of_skip hscan
    rcases hread with ⟨after', hread⟩
    exact (((confined_scan form field).blames hread).inProperty field.name).corrupt

namespace Cells

theorem failsWith_read {fields : List Field} (hadapters : ∀ field ∈ fields, field.AdaptsWithin Blames) :
    Reading.FailsWith Blames (read form fields) :=
  Reading.failsWith_of_confined (confined_read hplain hadapters)

theorem failsWith_skip (fields : List Field) : Reading.FailsWith Blames (skip form fields) := by
  induction fields with
  | nil => exact Reading.failsWith_pure ()
  | cons field fields ih => exact (Field.failsWith_skip hplain form field).bind fun _ => ih

end Cells

end

/-! ## Bodies -/

/-- Bytes as long as the padding hold it. -/
theorem Padding.exists_strip? {padding : Padding} {bytes : Bytes} (h : padding.size ≤ bytes.length) :
    ∃ body, padding.strip? bytes = some body := by
  unfold size at h
  rw [strip?, if_pos (by omega), slice?, if_pos (by omega)]
  exact ⟨_, rfl⟩

theorem Bare.error_of_decode {nullable : Bool} {damage found : Damage} {body : Bytes}
    (h : Bare.decode nullable damage body = .error found) : found = damage := by
  unfold Bare.decode at h
  split at h
  · split at h
    · cases h
      rfl
    · split at h
      · cases h
      split at h
      · cases h
      · cases h
        rfl
  · cases h

/-! ## Keys -/

namespace KeyLayout

variable {layout : KeyLayout} {Blames : Fault → Prop} (hplain : ∀ fault, Fault.IsPlain fault → Blames fault)

include hplain

/-- A buffer is refused for its length, and is long enough for its padding otherwise. -/
theorem failsWith_body {needed : Nat} {padding : Padding} (h : padding.size ≤ needed) (bytes : Bytes) :
    FailsWith Blames (body needed padding bytes) := by
  unfold body
  split
  · exact FailsWith.error (hplain _ ⟨rfl, rfl⟩)
  · next hlong =>
    rcases Padding.exists_strip? (h.trans (Nat.le_of_not_lt hlong)) with ⟨found, hfound⟩
    rw [hfound]
    exact FailsWith.of_ok rfl

theorem failsWith_decodeBare {field : Field} (hadapter : field.AdaptsWithin Blames) (bytes : Bytes) :
    FailsWith Blames (layout.decodeBare field bytes) := by
  have hneeded : layout.padding.size ≤ layout.bareLeastSize field := by
    unfold bareLeastSize Padding.size
    omega
  refine (failsWith_body hplain hneeded bytes).bind fun content _ => ?_
  cases hdecode : Bare.decode field.nullable .bareNullMarker content with
  | ok stored => exact hadapter stored
  | error damage =>
    rcases Bare.error_of_decode hdecode with rfl
    exact FailsWith.error (hplain _ ⟨rfl, rfl⟩)

/-- The reader of a key, or of a part of it, finds plain damage or what an adapter refuses with. -/
theorem failsWith_decodeSpan (hadapters : ∀ field ∈ layout.fields, field.AdaptsWithin Blames) {span : Span}
    (hstop : span.stop ≤ layout.fields.length) (bytes : Bytes) :
    FailsWith Blames (layout.decodeSpan bytes span) := by
  cases hbare : layout.bare? with
  | some field =>
    rw [decodeSpan, hbare]
    exact (failsWith_decodeBare hplain (hadapters field (mem_of_bare? hbare)) bytes).bind fun _ _ =>
      FailsWith.of_ok rfl
  | none =>
    rw [decodeSpan_of_not_bare hbare hstop]
    refine (failsWith_body hplain (Nat.le_add_right _ _) bytes).bind fun content _ => ?_
    have hcells : Reading.FailsWith Blames (Cells.read .sortable (span.slice layout.fields)) :=
      Cells.failsWith_read hplain fun field hfield =>
        hadapters field (List.mem_of_mem_take (List.mem_of_mem_drop hfield))
    have hread : Reading.FailsWith Blames ((Cells.read .sortable (span.slice layout.fields)).upToEnd .afterKey) :=
      hcells.upToEnd fun count => hplain _ ⟨rfl, rfl⟩
    exact (hread.runOn content).bind fun _ _ => FailsWith.of_ok rfl

/-- The reader of values out of a whole key finds plain damage or what an adapter refuses with. -/
theorem failsWith_decodePart (hadapters : ∀ field ∈ layout.fields, field.AdaptsWithin Blames) {bounds : Bounds}
    {span : Span} (hspan : layout.resolve bounds = .ok span) (key : Bytes) :
    FailsWith Blames (layout.decodePart key bounds) := by
  have hstop := stop_le_of_resolve hspan
  have hbefore : slice? layout.fields 0 span.start = some (layout.fields.take span.start) :=
    slice?_eq_some.mpr ⟨⟨Nat.zero_le _, span.start_le_stop.trans hstop⟩, rfl⟩
  have hfields : span.of? layout.fields = some (span.slice layout.fields) :=
    Span.of?_eq_some.mpr ⟨hstop, rfl⟩
  unfold decodePart
  rw [hspan, lift_refusal_ok, ok_bind]
  cases hbare : layout.bare? with
  | some field =>
    dsimp only
    rw [decode_of_resolve (resolve_all layout)]
    exact failsWith_decodeSpan hplain hadapters (Nat.le_refl _) key
  | none =>
    refine (failsWith_body hplain (Nat.le_add_right _ _) key).bind fun content _ => ?_
    simp only [hbefore, hfields, inBounds, ok_bind]
    have hread : Reading.FailsWith Blames
        (readBehind (layout.fields.take span.start) (span.slice layout.fields)) :=
      (Cells.failsWith_skip hplain _).bind fun _ => Cells.failsWith_read hplain fun field hfield =>
        hadapters field (List.mem_of_mem_take (List.mem_of_mem_drop hfield))
    exact (hread.runOn content).bind fun _ _ => FailsWith.of_ok rfl

end KeyLayout

/-! ## Data -/

namespace DataLayout

variable {layout : DataLayout} {Blames : Fault → Prop} (hplain : ∀ fault, Fault.IsPlain fault → Blames fault)

/-- The least length of data leaves room for the padding. -/
theorem size_le_leastSize (layout : DataLayout) : layout.padding.size ≤ layout.leastSize := by
  unfold leastSize Padding.size
  split
  · omega
  · exact Nat.le_add_right _ _

/-- The fault of data that is of another generation than the expected one. -/
def Mismatched (layout : DataLayout) (bytes : Bytes) (expected : Option Nat) (fault : Fault) : Prop :=
  ∃ actual, layout.decodeChecked bytes expected = .ok (.foreign actual) ∧
    fault = .corrupt (.generation (expected.getD 0) actual)

include hplain

/-- Data is refused for its length, and is long enough for its padding otherwise. -/
theorem failsWith_body (bytes : Bytes) (expected : Option Nat) :
    FailsWith Blames (layout.body bytes expected) := by
  have hsize := layout.size_le_leastSize
  by_cases hlong : layout.leastSizeWith expected ≤ bytes.length
  · rcases Padding.exists_strip? (hsize.trans ((Nat.le_add_right _ _).trans hlong)) with ⟨found, hfound⟩
    exact FailsWith.of_ok (body_eq_ok.mpr ⟨hlong, hfound⟩)
  · unfold body
    rw [if_pos (Nat.lt_of_not_le hlong)]
    exact FailsWith.error (hplain _ ⟨rfl, rfl⟩)

theorem failsWith_readForeign (expected : Option Nat) : Reading.FailsWith Blames (readForeign expected) :=
  fun _ _ fault hrun => hplain fault ((confined_readForeign expected).blames hrun)

theorem failsWith_readBehind {α : Type} {inner : Reading α} (h : Reading.FailsWith Blames inner)
    (expected : Option Nat) : Reading.FailsWith Blames (readBehind expected inner) := by
  refine (failsWith_readForeign hplain expected).bind fun foreign => ?_
  cases foreign with
  | some generation => exact Reading.failsWith_pure _
  | none => exact h.bind fun _ => Reading.failsWith_pure _

theorem failsWith_readBare {field : Field} (hadapter : field.AdaptsWithin Blames) :
    Reading.FailsWith Blames (readBare field) := by
  intro cursor after fault hrun
  unfold readBare at hrun
  split at hrun
  · next stored _ => exact Reading.failsWith_ofExcept (hadapter stored) cursor after fault hrun
  · next damage hdecode =>
    rcases Bare.error_of_decode hdecode with rfl
    cases hrun
    exact hplain _ ⟨rfl, rfl⟩

theorem failsWith_readValues (hadapters : ∀ field ∈ layout.fields, field.AdaptsWithin Blames) :
    Reading.FailsWith Blames layout.readValues := by
  cases hbare : layout.bare? with
  | some field =>
    rw [readValues, hbare]
    exact (failsWith_readBare hplain (hadapters field (mem_of_bare? hbare))).bind fun _ => Reading.failsWith_pure _
  | none =>
    rw [readValues_of_not_bare hbare]
    exact (Cells.failsWith_read hplain hadapters).upToEnd fun count => hplain _ ⟨rfl, rfl⟩

theorem failsWith_readField (hadapters : ∀ field ∈ layout.fields, field.AdaptsWithin Blames) {index : Nat}
    {field : Field} (hfield : layout.fields[index]? = some field) :
    Reading.FailsWith Blames (layout.readField index field) := by
  unfold readField
  cases hbare : layout.bare? with
  | some bare =>
    exact failsWith_readBare hplain (hadapters bare (mem_of_bare? hbare))
  | none =>
    exact (Cells.failsWith_skip hplain _).bind fun _ =>
      Field.failsWith_read hplain (hadapters field (List.mem_of_getElem? hfield))

/-- The reader that reports foreign data finds plain damage or what an adapter refuses with. -/
theorem failsWith_decodeChecked (hadapters : ∀ field ∈ layout.fields, field.AdaptsWithin Blames) (bytes : Bytes)
    (expected : Option Nat) : FailsWith Blames (layout.decodeChecked bytes expected) := by
  refine (failsWith_body hplain bytes expected).bind fun content _ => ?_
  have hread := failsWith_readBehind hplain (failsWith_readValues hplain hadapters) expected
  exact (hread.runOn content).bind fun _ _ => FailsWith.of_ok rfl

/-- A reader of data of the expected generation fails with the faults of its last step, or for the
generation. -/
theorem failsWith_current {α : Type} {inner : Reading α} (h : Reading.FailsWith Blames inner) (bytes : Bytes)
    (expected : Option Nat) :
    FailsWith (fun fault => Blames fault ∨ layout.Mismatched bytes expected fault) (do
      let body ← layout.body bytes expected
      let (outcome, _) ← (readBehind expected inner).runOn body
      currentOnly expected outcome) := by
  have hbody : FailsWith Blames (layout.body bytes expected) := failsWith_body hplain bytes expected
  refine FailsWith.bind (fun fault hfault => Or.inl (hbody fault hfault)) fun content hcontent => ?_
  have hread := (failsWith_readBehind hplain h expected).runOn content
  refine FailsWith.bind (fun fault hfault => Or.inl (hread fault hfault)) ?_
  rintro ⟨outcome, after⟩ hrun
  cases outcome with
  | current found => exact FailsWith.of_ok rfl
  | foreign actual =>
    have hforeign := readBehind_eq_foreign.mp (Reading.runOn_eq_ok.mp hrun)
    exact FailsWith.error (Or.inr ⟨actual, decodeChecked_eq_foreign.mpr ⟨content, after, hcontent, hforeign⟩, rfl⟩)

/-- The reader of data finds plain damage, what an adapter refuses with, or another generation. -/
theorem failsWith_decode (hadapters : ∀ field ∈ layout.fields, field.AdaptsWithin Blames) (bytes : Bytes)
    (expected : Option Nat) :
    FailsWith (fun fault => Blames fault ∨ layout.Mismatched bytes expected fault)
      (layout.decode bytes expected) := by
  have hvalues : Reading.FailsWith Blames layout.readValues := failsWith_readValues hplain hadapters
  rw [decode, decodeChecked]
  simpa only [bind_assoc, pure_bind] using failsWith_current hplain hvalues bytes expected

/-- The reader of one field finds plain damage, what an adapter refuses with, or another generation. -/
theorem failsWith_decodeField (hadapters : ∀ field ∈ layout.fields, field.AdaptsWithin Blames) {index : Nat}
    (hindex : index < layout.fields.length) (bytes : Bytes) (expected : Option Nat) :
    FailsWith (fun fault => Blames fault ∨ layout.Mismatched bytes expected fault)
      (layout.decodeField bytes expected index) := by
  have hfield : layout.fields[index]? = some layout.fields[index] := List.getElem?_eq_getElem hindex
  rw [decodeField, hfield]
  exact failsWith_current hplain (failsWith_readField hplain hadapters hfield) bytes expected

end DataLayout

/-! ## Snapshots -/

theorem Slots.byteCount_le_of_ofBytes {bytes : Bytes} {count : Nat} {slots : Slots}
    (h : ofBytes bytes count = .ok slots) : byteCount count ≤ bytes.length := by
  unfold ofBytes at h
  split at h
  · cases h
  · next hlong => exact Nat.le_of_not_lt hlong

namespace SnapshotLayout

variable {layout : SnapshotLayout} {Blames : Fault → Prop} (hplain : ∀ fault, Fault.IsPlain fault → Blames fault)

include hplain

theorem failsWith_readFrom {fields : List Field} (hadapters : ∀ field ∈ fields, field.AdaptsWithin Blames)
    (slots : Slots) (ordinal : Nat) : Reading.FailsWith Blames (readFrom slots ordinal fields) := by
  induction fields generalizing ordinal with
  | nil => exact Reading.failsWith_pure []
  | cons field fields ih =>
    have hadapter := hadapters field List.mem_cons_self
    have hfirst : Reading.FailsWith Blames (readField slots field ordinal) := by
      unfold readField
      split
      · exact Field.failsWith_read hplain hadapter
      · exact Reading.failsWith_ofExcept (Field.failsWith_zero hadapter)
    have hothers := ih (fun next hnext => hadapters next (List.mem_cons_of_mem _ hnext)) (ordinal + 1)
    exact hfirst.bind fun _ => hothers.bind fun _ => Reading.failsWith_pure _

/-- The reader of a snapshot finds plain damage or what an adapter refuses with. -/
theorem failsWith_contents (hadapters : ∀ field ∈ layout.fields, field.AdaptsWithin Blames) (bytes : Bytes) :
    FailsWith Blames (layout.contents bytes) := by
  unfold contents
  cases hslots : Slots.ofBytes bytes layout.fields.length with
  | error damage =>
    unfold Slots.ofBytes at hslots
    split at hslots
    · cases hslots
      exact FailsWith.error (hplain _ ⟨rfl, rfl⟩)
    · cases hslots
  | ok slots =>
    have hlong := Slots.byteCount_le_of_ofBytes hslots
    have hbody : slice? bytes layout.stateSize bytes.length = some (bytes.drop layout.stateSize) := by
      rw [slice?_eq_some, List.take_length]
      exact ⟨⟨hlong, Nat.le_refl _⟩, rfl⟩
    rw [lift_damage_ok, ok_bind, hbody, inBounds, ok_bind]
    have hread : Reading.FailsWith Blames (layout.readValues slots) :=
      (failsWith_readFrom hplain hadapters slots 0).upToEnd fun count => hplain _ ⟨rfl, rfl⟩
    exact (hread.runOn _).bind fun _ _ => FailsWith.of_ok rfl

/-- A row of the right length takes the contents of a snapshot, or is told what is wrong with them. -/
theorem failsWith_decodeInto (hadapters : ∀ field ∈ layout.fields, field.AdaptsWithin Blames) (bytes : Bytes)
    {row : Row} (hrow : row.length = layout.fields.length) (slots : Slots) :
    FailsWith Blames (layout.decodeInto bytes row slots) := by
  unfold decodeInto
  rw [if_neg (not_not.mpr hrow)]
  exact (failsWith_contents hplain hadapters bytes).bind fun _ _ => FailsWith.of_ok rfl

end SnapshotLayout

end RecordBytes
