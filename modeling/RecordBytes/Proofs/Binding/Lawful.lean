import Mathlib
import RecordBytes.Proofs.Binding.Writing
import RecordBytes.Proofs.Slots.Replayed

/-!
# Lawful bindings

A binding sees an object through its readers and the access to its states.  It is lawful when the writers do what
the readers can see: a value that a reader can find can be set on any object, where it is then found, and nothing
else that can be seen changes; and the states are found as they were put.  A reader may do more than read, as long as
that cannot be seen.

That the readers do not look at the states is no law.  A reader may tell a property from its state, and a writer keep
it so that the reader finds it as long as the state stays.

Main definitions:

- `Binding.values`, `Binding.states`: what a binding sees of an object.
- `Binding.Settable`: values that can be set at an ordinal.
- `Binding.Lawful`: the laws.
- `Binding.SlotsApart`: replacing the states changes no value.
- `Binding.Gets`: calls of the readers, one after another.

Main results:

- `Binding.lawful_entangled`, `Binding.not_slotsApart_entangled`: a lawful binding whose values hang on its states.
- `Binding.Gets.same`, `Binding.Sets.exists_after`: what is seen behind calls of readers and of writers.
- `Binding.exists_gets_encode`: an encoder calls the readers of the properties that it writes.
- `Binding.exists_gets_encodeKey`, `Binding.exists_gets_encodeData`, `Binding.exists_gets_encodeSnapshot`: the forms
  of an object are those of the values that its readers find.
-/

namespace RecordBytes.Binding

open Outcome

variable {σ : Type} {binding : Binding σ}

/-! ## What is seen of an object -/

/-- The values that the readers find in an object, by ordinal. -/
def values (binding : Binding σ) (host : σ) : Row :=
  binding.accessors.map fun accessor => (accessor.get host).1

/-- The states of an object, where the binding has access to them. -/
def states (binding : Binding σ) (host : σ) : Option Slots :=
  binding.slots.map fun access => access.get host

/-- Nothing that the binding can see of an object has changed. -/
def Same (binding : Binding σ) (before after : σ) : Prop :=
  binding.values after = binding.values before ∧ binding.states after = binding.states before

theorem Same.refl (host : σ) : binding.Same host host :=
  ⟨rfl, rfl⟩

theorem Same.trans {before middle after : σ} (h : binding.Same before middle) (hrest : binding.Same middle after) :
    binding.Same before after :=
  ⟨hrest.1.trans h.1, hrest.2.trans h.2⟩

@[simp]
theorem length_values (binding : Binding σ) (host : σ) : (binding.values host).length = binding.accessors.length :=
  List.length_map _

theorem getElem?_values {ordinal : Nat} {accessor : Accessor σ} (h : binding.accessors[ordinal]? = some accessor)
    (host : σ) : (binding.values host)[ordinal]? = some (accessor.get host).1 := by
  rw [values, List.getElem?_map, h, Option.map_some]

/-! ## Laws -/

/-- A value can be set at an ordinal of any object: the writer succeeds, the reader then finds the value, and
nothing else that can be seen changes. -/
def Settable (binding : Binding σ) (ordinal : Nat) (value : Value) : Prop :=
  ∀ accessor, binding.accessors[ordinal]? = some accessor → ∀ host, ∃ after,
    accessor.set value host = .ok () after ∧
      binding.values after = (binding.values host).set ordinal value ∧ binding.states after = binding.states host

/-- Readers change nothing that can be seen, what a reader can find can be set, and the states of an object are
found as they were put. -/
structure Lawful (binding : Binding σ) : Prop where
  get : ∀ accessor ∈ binding.accessors, ∀ host, binding.Same host (accessor.get host).2
  set : ∀ (ordinal : Nat) (value : Value) (host : σ),
    (binding.values host)[ordinal]? = some value → binding.Settable ordinal value
  put : ∀ access, binding.slots = some access → ∀ (slots : Slots) (host : σ),
    access.get (access.put slots host) = slots

/-- The states of an object are kept apart from its properties: replacing them changes no value that a reader finds.
The laws do not give this, see `entangledRecord`. -/
def SlotsApart (binding : Binding σ) : Prop :=
  ∀ access, binding.slots = some access → ∀ (slots : Slots) (host : σ),
    binding.values (access.put slots host) = binding.values host

/-- A flag that is kept by whether it differs from its state being dirty. -/
def entangledFlag : Accessor (Bool × Slots) where
  get host := (.of .bool (host.1 ^^ host.2.get 0 == .dirty), host)
  set
    | .of .bool flag, (_, slots) => .ok () (flag ^^ slots.get 0 == .dirty, slots)
    | _, host => .error (.illegal (.byHost "not a flag")) host

/-- The states beside this flag. -/
def entangledSlots : SlotAccess (Bool × Slots) where
  get := Prod.snd
  put slots host := (host.1, slots)

/-- A record of this flag. -/
def entangledRecord : Binding (Bool × Slots) where
  format := DataLayout.flagRecord
  accessors := [entangledFlag]
  slots := some entangledSlots

theorem settable_entangled (flag : Bool) : entangledRecord.Settable 0 (.of .bool flag) := by
  rintro _ ⟨⟩ ⟨_, slots⟩
  refine ⟨(flag ^^ slots.get 0 == .dirty, slots), rfl, ?_, rfl⟩
  simp [values, entangledRecord, entangledFlag]

theorem lawful_entangled : entangledRecord.Lawful := by
  refine ⟨?_, ?_, ?_⟩
  · intro accessor haccessor host
    rcases List.mem_singleton.mp haccessor with rfl
    exact Same.refl host
  · intro ordinal value host hvalue
    rcases List.getElem?_eq_some_iff.mp hvalue with ⟨hordinal, hfound⟩
    rcases Nat.lt_one_iff.mp hordinal with rfl
    rw [← hfound]
    exact settable_entangled _
  · rintro _ ⟨⟩ slots host
    rfl

theorem not_slotsApart_entangled : ¬ entangledRecord.SlotsApart := by
  intro hapart
  have hsame := hapart _ rfl ((Slots.empty 1).set 0 .dirty) (false, Slots.empty 1)
  revert hsame
  decide

/-! ## Calls of readers -/

/-- The readers at some ordinals are called, in order, from one object to another. -/
inductive Gets (binding : Binding σ) : List Nat → σ → List Value → σ → Prop
  | done (host : σ) : Gets binding [] host [] host
  | next {ordinal : Nat} {rest : List Nat} {accessor : Accessor σ} {host after : σ} {found : List Value}
      (haccessor : binding.accessors[ordinal]? = some accessor)
      (hrest : Gets binding rest (accessor.get host).2 found after) :
      Gets binding (ordinal :: rest) host ((accessor.get host).1 :: found) after

/-- The readers of a lawful binding find the values of the object, which stays as it was to them. -/
theorem Gets.same {ordinals : List Nat} {host after : σ} {found : List Value}
    (h : Gets binding ordinals host found after) (hlawful : binding.Lawful) :
    Row.select? (binding.values host) ordinals = some found ∧ binding.Same host after := by
  induction h with
  | done host => exact ⟨rfl, Same.refl host⟩
  | @next ordinal rest accessor host after found haccessor hrest ih =>
    have hget := hlawful.get accessor (List.mem_of_getElem? haccessor) host
    rcases ih with ⟨hselect, hsame⟩
    rw [hget.1] at hselect
    exact ⟨Row.select?_cons.mpr ⟨_, _, getElem?_values haccessor _, hselect, rfl⟩, hget.trans hsame⟩

/-- What is read into a row is stored at the ordinals of the readers that were called. -/
theorem exists_gets_readInto {ordinals : List Nat} {row : Row}
    (hordinals : ∀ ordinal ∈ ordinals, ordinal < binding.accessors.length)
    (hrow : row.length = binding.accessors.length) (host : σ) :
    ∃ found stored after, Gets binding ordinals host found after ∧
      Row.store? row (ordinals.zip found) = some stored ∧ binding.readInto row ordinals host = .ok stored after := by
  induction ordinals generalizing row host with
  | nil => exact ⟨[], row, host, Gets.done host, rfl, rfl⟩
  | cons ordinal ordinals ih =>
    have hlt := hordinals ordinal List.mem_cons_self
    obtain ⟨accessor, haccessor⟩ : ∃ accessor, binding.accessors[ordinal]? = some accessor :=
      ⟨_, List.getElem?_eq_getElem hlt⟩
    have hread : binding.readInto row (ordinal :: ordinals) host =
        binding.readInto (row.set ordinal (accessor.get host).1) ordinals (accessor.get host).2 := by
      rw [readInto, accessor_bind haccessor]
      rfl
    have hset : (row.set ordinal (accessor.get host).1).length = binding.accessors.length := by
      rw [List.length_set, hrow]
    rcases ih (fun other hother => hordinals other (List.mem_cons_of_mem _ hother)) hset (accessor.get host).2 with
      ⟨found, stored, after, hgets, hstored, hrest⟩
    refine ⟨_, stored, after, Gets.next haccessor hgets, ?_, hread.trans hrest⟩
    exact Row.store?_cons.mpr ⟨hrow ▸ hlt, hstored⟩

/-! ## Calls of writers -/

/-- Values that can be set are all set, and then found in place of those before. -/
theorem Sets.exists_after {calls : List (Nat × Value)} {host : σ} {result : EStateM.Result Fault σ Unit}
    (h : Sets binding calls host result)
    (hset : ∀ ordinal value, (ordinal, value) ∈ calls → binding.Settable ordinal value) :
    ∃ after, result = .ok () after ∧ Row.store? (binding.values host) calls = some (binding.values after) ∧
      binding.states after = binding.states host := by
  induction h with
  | done host => exact ⟨host, rfl, rfl, rfl⟩
  | @next ordinal value rest accessor host middle result haccessor hwritten hrest ih =>
    rcases hset ordinal value List.mem_cons_self accessor haccessor host with ⟨found, hfound, hvalues, hstates⟩
    cases hwritten.symm.trans hfound
    rcases ih fun other given hother => hset other given (List.mem_cons_of_mem _ hother) with
      ⟨after, hresult, hstored, hsame⟩
    rw [hvalues] at hstored
    have hlt : ordinal < (binding.values host).length := by
      rw [length_values]
      exact (List.getElem?_eq_some_iff.mp haccessor).1
    exact ⟨after, hresult, Row.store?_cons.mpr ⟨hlt, hstored⟩, hsame.trans hstates⟩
  | @stopped ordinal value rest accessor host after fault haccessor hwritten =>
    rcases hset ordinal value List.mem_cons_self accessor haccessor host with ⟨found, hfound, -⟩
    cases hwritten.symm.trans hfound

/-! ## Encoders -/

/-- An encoder of rows that looks at some ordinals alone, behind the readers at these ordinals, has the outcome
that it has for the values of all readers. -/
theorem exists_gets_encode (hlawful : binding.Lawful) {ordinals : List Nat} (hnodup : ordinals.Nodup)
    (hordinals : ∀ ordinal ∈ ordinals, ordinal < binding.accessors.length) (host : σ)
    {encode : Row → Except Fault Bytes}
    (hencode : ∀ row : Row, row.length = binding.accessors.length →
      (∀ ordinal ∈ ordinals, row[ordinal]? = (binding.values host)[ordinal]?) →
        encode row = encode (binding.values host)) :
    ∃ found after, Gets binding ordinals host found after ∧ binding.Same host after ∧
      (binding.readInto binding.blankRow ordinals >>= fun row => ofExcept (encode row)) host =
        ofExcept (encode (binding.values host)) after := by
  have hblank : binding.blankRow.length = binding.accessors.length := List.length_replicate
  rcases exists_gets_readInto hordinals hblank host with ⟨found, stored, after, hgets, hstored, hread⟩
  rcases hgets.same hlawful with ⟨hselect, hsame⟩
  refine ⟨found, after, hgets, hsame, ?_⟩
  -- What the readers found stands in the row at their ordinals, and the encoder does not look elsewhere.
  have hagree : ∀ ordinal ∈ ordinals, stored[ordinal]? = (binding.values host)[ordinal]? := by
    intro ordinal hordinal
    have hholds := Row.holds_of_select? hselect
    rcases hholds.exists_index (Row.length_select? hselect) hordinal with ⟨index, value, hindex, hvalue, hat⟩
    rw [hat, Row.getElem?_store? hstored hnodup hindex hvalue]
  rw [← hencode stored ((Row.length_store? hstored).trans hblank) hagree]
  simp only [Bind.bind, EStateM.bind, hread]

theorem WellBuilt.length_values (h : binding.WellBuilt) (host : σ) :
    (binding.values host).length = binding.format.schema.size := by
  rw [Binding.length_values, h.length_eq]

/-- The key of an object, or the part that bounds name, is that of the values that its readers find; those of the
key are called. -/
theorem exists_gets_encodeKey (h : binding.WellBuilt) (hlawful : binding.Lawful) (bounds : Bounds) (host : σ) :
    ∃ found after, Gets binding binding.format.schema.key host found after ∧ binding.Same host after ∧
      binding.encodeKey bounds host = ofExcept (binding.format.encodeKey (binding.values host) bounds) after := by
  refine exists_gets_encode hlawful h.shared.nodup_key ?_ host ?_
  · rw [h.length_eq]
    exact h.shared.key_lt
  · intro row hrow hagree
    apply RecordFormat.encodeKey_congr h.shared.key_lt h.fields.key.length_eq.symm (hrow.trans h.length_eq)
      (h.length_values host)
    intro span _ ordinal hordinal
    exact hagree ordinal (List.mem_of_mem_take (List.mem_of_mem_drop hordinal))

/-- The data of an object is that of the values that its readers find; those outside the key are called. -/
theorem exists_gets_encodeData (h : binding.WellBuilt) (hlawful : binding.Lawful) (generation : Option Nat)
    (host : σ) :
    ∃ found after, Gets binding binding.format.schema.data host found after ∧ binding.Same host after ∧
      binding.encodeData generation host =
        ofExcept (binding.format.encodeData (binding.values host) generation) after := by
  refine exists_gets_encode hlawful h.shared.nodup_data ?_ host ?_
  · intro ordinal hordinal
    rw [h.length_eq]
    exact ((h.shared.mem_data ordinal).mp hordinal).1
  · intro row hrow hagree
    exact RecordFormat.encodeData_congr (hrow.trans h.length_eq) (h.length_values host) hagree generation

/-- The snapshot of an object is that of the values that all of its readers find, though only those of the assigned
properties are called. -/
theorem exists_gets_encodeSnapshot (h : binding.WellBuilt) (hlawful : binding.Lawful) {access : SlotAccess σ}
    (haccess : binding.slots = some access) (host : σ) :
    ∃ found after,
      Gets binding ((access.get host).assigned.filter (· < binding.format.schema.size)) host found after ∧
      binding.Same host after ∧
      binding.encodeSnapshot host =
        ofExcept (binding.format.encodeSnapshot (binding.values host) (access.get host)) after := by
  have hencode : binding.encodeSnapshot host =
      (binding.readInto binding.blankRow ((access.get host).assigned.filter (· < binding.accessors.length)) >>=
        fun row => ofExcept (binding.format.encodeSnapshot row (access.get host))) host := by
    unfold encodeSnapshot slotAccess
    rw [haccess]
    rfl
  rw [hencode, h.length_eq]
  apply exists_gets_encode hlawful
  · exact (List.nodup_range.filter _).filter _
  · intro ordinal hordinal
    rw [h.length_eq]
    simpa using (List.mem_filter.mp hordinal).2
  · intro row hrow hagree
    apply RecordFormat.encodeSnapshot_congr h.fields.length_eq (hrow.trans h.length_eq) (h.length_values host)
      (fun _ _ => rfl)
    intro ordinal hlt hassigned
    apply hagree ordinal
    rw [List.mem_filter, Slots.mem_assigned]
    exact ⟨by simpa [Slots.isAssigned, SlotState.isAssigned] using hassigned, by simpa using hlt⟩

end RecordBytes.Binding
