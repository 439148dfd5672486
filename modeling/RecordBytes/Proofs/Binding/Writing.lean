import Mathlib
import RecordBytes.Proofs.Binding.Built
import RecordBytes.Proofs.Format.Agreement
import RecordBytes.Proofs.Format.Classified
import RecordBytes.Proofs.Format.Rebuilt

/-!
# Writing into host objects

The writers of a host may fail, and one that fails may have changed the object.  A decoder reads all bytes before
it calls the first writer, so an object that is not written stays as it was.  It calls the writers in order, one
for each value, and stops at the first that fails; the states of a snapshot follow the last of them.

Main definitions:

- `Binding.Sets`: calls of the writers for some values, one after another.
- `Binding.SetsAll`: the calls for what was read, or none where reading failed.
- `Binding.IsForeign`: data of another generation than the expected one.
- `Binding.decodeDataRecorded`: reading data with a handler that takes down the generation of foreign data.
- `Binding.putAfter`: states that are put into an object behind its writers.

Main results:

- `Binding.sets_writeFrom`: the writers that are called for some ordinals of a row.
- `Binding.setsAll_decodeKey`, `Binding.setsAll_decodeData`: the writers that keys and data call.
- `Binding.decodeDataOrElse_of_foreign`, `Binding.decodeDataOrElse_of_not_foreign`: when foreign data is handed on.
- `Binding.exists_sets_decodeSnapshot`: the writers that snapshots call, and the states behind them.
- `Binding.decoders_write_last`: all four decoders, for any binding that was built.
-/

namespace RecordBytes

open Outcome

/-! ## Values at ordinals -/

namespace Row

variable {row stored : Row} {ordinals : List Nat} {values : List Value}

/-- The values that a row holds at some ordinals are those that are selected there. -/
theorem Holds.select? (h : row.Holds ordinals values) (hlength : values.length = ordinals.length) :
    Row.select? row ordinals = some values := by
  apply select?_of_forall₂
  rw [List.forall₂_iff_get]
  refine ⟨hlength.symm, ?_⟩
  intro index hordinal hvalue
  exact h index _ _ (List.getElem?_eq_getElem hordinal) (List.getElem?_eq_getElem hvalue)

/-- The values of a whole row are those at all of its ordinals. -/
theorem select?_range (row : Row) : Row.select? row (List.range row.length) = some row := by
  refine Holds.select? ?_ List.length_range.symm
  intro index ordinal value hordinal hvalue
  rcases List.getElem?_eq_some_iff.mp hordinal with ⟨hlt, hsame⟩
  rw [List.getElem_range] at hsame
  rwa [← hsame]

end Row

/-! ## Rows of a format -/

namespace RecordFormat

variable {format : RecordFormat} {row : Row}

/-- Data is read, and then its values are stored at the data ordinals of a row; foreign data is not. -/
theorem decodeDataChecked_eq (hrow : row.length = format.schema.size) (bytes : Bytes) (expected : Option Nat) :
    format.decodeDataChecked bytes expected row =
      (format.data.decodeChecked bytes expected >>= fun
        | .current values => Outcome.current <$> inBounds (Row.store? row (format.schema.data.zip values))
        | .foreign generation => .ok (.foreign generation)) := by
  have hcheck : format.checkRow row = .ok () := checkRow_eq_ok.mpr hrow
  rw [decodeDataChecked, hcheck, lift_refusal_ok, ok_bind]
  rfl

/-- A snapshot is read into a row of the right length: its values are the row, and its states the first slots. -/
theorem decodeSnapshot_eq (hrow : row.length = format.schema.size)
    (hfields : format.snapshot.fields.length = format.schema.size) (bytes : Bytes) (slots : Slots) :
    format.decodeSnapshot bytes row slots =
      (format.snapshot.contents bytes >>= fun found =>
        .ok (found.1, slots.replaceFirst format.schema.size found.2.get)) := by
  have hcheck : format.checkRow row = .ok () := checkRow_eq_ok.mpr hrow
  rw [decodeSnapshot, hcheck, lift_refusal_ok, ok_bind, SnapshotLayout.decodeInto,
    if_neg (not_not.mpr (hrow.trans hfields.symm)), hfields]
  rfl

end RecordFormat

namespace Binding

variable {σ : Type} {binding : Binding σ}

/-! ## Calls of writers -/

/-- The writers are called for some values, in order, each for the value at its ordinal, until the first that
fails.  The result is that of the last call. -/
inductive Sets (binding : Binding σ) : List (Nat × Value) → σ → EStateM.Result Fault σ Unit → Prop
  | done (host : σ) : Sets binding [] host (.ok () host)
  | next {ordinal : Nat} {value : Value} {rest : List (Nat × Value)} {accessor : Accessor σ} {host middle : σ}
      {result : EStateM.Result Fault σ Unit} (haccessor : binding.accessors[ordinal]? = some accessor)
      (hset : accessor.set value host = .ok () middle) (hrest : Sets binding rest middle result) :
      Sets binding ((ordinal, value) :: rest) host result
  | stopped {ordinal : Nat} {value : Value} {rest : List (Nat × Value)} {accessor : Accessor σ} {host after : σ}
      {fault : Fault} (haccessor : binding.accessors[ordinal]? = some accessor)
      (hset : accessor.set value host = .error fault after) :
      Sets binding ((ordinal, value) :: rest) host (.error fault after)

/-- The same calls from the same object have one result. -/
theorem Sets.unique {calls : List (Nat × Value)} {host : σ} {result other : EStateM.Result Fault σ Unit}
    (h : Sets binding calls host result) (hother : Sets binding calls host other) : result = other := by
  induction h with
  | done host =>
    cases hother with
    | done => rfl
  | next haccessor hset hrest ih =>
    cases hother with
    | next haccessor' hset' hrest' =>
      cases Option.some.inj (haccessor.symm.trans haccessor')
      cases hset.symm.trans hset'
      exact ih hrest'
    | stopped haccessor' hset' =>
      cases Option.some.inj (haccessor.symm.trans haccessor')
      cases hset.symm.trans hset'
  | stopped haccessor hset =>
    cases hother with
    | next haccessor' hset' hrest' =>
      cases Option.some.inj (haccessor.symm.trans haccessor')
      cases hset.symm.trans hset'
    | stopped haccessor' hset' =>
      cases Option.some.inj (haccessor.symm.trans haccessor')
      cases hset.symm.trans hset'
      rfl

/-- The writers at some ordinals, which are distinct, are called for the values that were read, one for each.  Where
reading failed, none is called and the object stays as it was. -/
def SetsAll (binding : Binding σ) (ordinals : List Nat) (decoded : Except Fault (List Value)) (target : σ)
    (result : EStateM.Result Fault σ Unit) : Prop :=
  match decoded with
  | .ok values => ordinals.Nodup ∧ values.length = ordinals.length ∧ Sets binding (ordinals.zip values) target result
  | .error fault => result = .error fault target

/-! ## Steps on a host object -/

theorem ofExcept_bind_of_ok {α β : Type} {outcome : Except Fault α} {found : α} (h : outcome = .ok found)
    (next : α → HostAction σ β) (host : σ) : (ofExcept outcome >>= next) host = next found host := by
  rw [h]
  rfl

theorem ofExcept_bind_of_error {α β : Type} {outcome : Except Fault α} {fault : Fault}
    (h : outcome = .error fault) (next : α → HostAction σ β) (host : σ) :
    (ofExcept outcome >>= next) host = .error fault host := by
  rw [h]
  rfl

theorem ofExcept_eq_ok {α : Type} {outcome : Except Fault α} {found : α} {host after : σ} :
    ofExcept outcome host = .ok found after ↔ outcome = .ok found ∧ host = after := by
  cases outcome with
  | ok given => simp [ofExcept, pure, EStateM.pure]
  | error fault => simp [ofExcept, throw, throwThe, MonadExceptOf.throw, EStateM.throw]

theorem accessor_bind {β : Type} {ordinal : Nat} {accessor : Accessor σ}
    (h : binding.accessors[ordinal]? = some accessor) (next : Accessor σ → HostAction σ β) (host : σ) :
    (binding.accessor ordinal >>= next) host = next accessor host :=
  ofExcept_bind_of_ok (inBounds_eq_ok.mpr h) next host

/-- What is written from a row are the values at the given ordinals. -/
theorem sets_writeFrom {row : Row} {ordinals : List Nat} {values : List Value}
    (hvalues : Row.select? row ordinals = some values)
    (hordinals : ∀ ordinal ∈ ordinals, ordinal < binding.accessors.length) (host : σ) :
    Sets binding (ordinals.zip values) host (binding.writeFrom row ordinals host) := by
  induction ordinals generalizing values host with
  | nil => exact Sets.done host
  | cons ordinal ordinals ih =>
    rcases Row.select?_cons.mp hvalues with ⟨value, rest, hvalue, hrest, rfl⟩
    have hlt := hordinals ordinal List.mem_cons_self
    have hothers : ∀ other ∈ ordinals, other < binding.accessors.length :=
      fun other hother => hordinals other (List.mem_cons_of_mem _ hother)
    obtain ⟨accessor, haccessor⟩ : ∃ accessor, binding.accessors[ordinal]? = some accessor :=
      ⟨_, List.getElem?_eq_getElem hlt⟩
    have hwrite : binding.writeFrom row (ordinal :: ordinals) host =
        (accessor.set value >>= fun _ => binding.writeFrom row ordinals) host := by
      rw [writeFrom, accessor_bind haccessor]
      exact ofExcept_bind_of_ok (inBounds_eq_ok.mpr hvalue) _ host
    -- The others are written from whatever object the first writer leaves.
    rw [hwrite]
    simp only [Bind.bind, EStateM.bind]
    cases hset : accessor.set value host with
    | ok found middle => exact Sets.next haccessor hset (ih hrest hothers middle)
    | error fault after => exact Sets.stopped haccessor hset

/-- Values that were read are stored in a blank row and written from there. -/
theorem setsAll_store {ordinals : List Nat} {values : List Value} (hnodup : ordinals.Nodup)
    (hordinals : ∀ ordinal ∈ ordinals, ordinal < binding.accessors.length)
    (hlength : values.length = ordinals.length) (target : σ) :
    SetsAll binding ordinals (.ok values) target
      ((ofExcept (inBounds (Row.store? binding.blankRow (ordinals.zip values))) >>=
        fun row => binding.writeFrom row ordinals) target) := by
  have hin : ∀ ordinal ∈ ordinals, ordinal < binding.blankRow.length := by
    intro ordinal hordinal
    rw [blankRow, List.length_replicate]
    exact hordinals ordinal hordinal
  rcases Row.exists_store? hin values with ⟨stored, hstored⟩
  have hselect := (Row.holds_of_store? hstored hnodup).select? hlength
  rw [ofExcept_bind_of_ok (inBounds_eq_ok.mpr hstored)]
  exact ⟨hnodup, hlength, sets_writeFrom hselect hordinals target⟩

/-! ## Keys -/

variable {bytes : Bytes} {expected : Option Nat} {target : σ}

theorem WellBuilt.length_blankRow (h : binding.WellBuilt) :
    binding.blankRow.length = binding.format.schema.size := by
  rw [blankRow, List.length_replicate, h.length_eq]

/-- The writers of the key are called for the values of a key. -/
theorem setsAll_decodeKey (h : binding.WellBuilt) (bytes : Bytes) (target : σ) :
    SetsAll binding binding.format.schema.key (binding.format.key.decode bytes .all) target
      (binding.decodeKey bytes target) := by
  have hfields := h.fields.key.length_eq.symm
  unfold decodeKey
  rw [RecordFormat.decodeKey_all h.length_blankRow hfields]
  cases hdecode : binding.format.key.decode bytes .all with
  | error fault => exact ofExcept_bind_of_error rfl _ target
  | ok values =>
    rw [ok_bind]
    refine setsAll_store h.shared.nodup_key ?_ ((KeyLayout.length_of_decode_all hdecode).trans hfields) target
    rw [h.length_eq]
    exact h.shared.key_lt

/-! ## Data -/

/-- What comes of data for an object: values that are written, or a foreign generation that is handed on with all
bytes. -/
theorem decodeDataOrElse_eq (h : binding.WellBuilt) (bytes : Bytes) (expected : Option Nat)
    (upgrade : Nat → Bytes → HostAction σ Unit) (target : σ) :
    binding.decodeDataOrElse bytes expected upgrade target =
      match binding.format.data.decodeChecked bytes expected with
      | .error fault => .error fault target
      | .ok (.foreign actual) => upgrade actual bytes target
      | .ok (.current values) =>
        (ofExcept (inBounds (Row.store? binding.blankRow (binding.format.schema.data.zip values))) >>=
          fun row => binding.writeFrom row binding.format.schema.data) target := by
  unfold decodeDataOrElse
  rw [RecordFormat.decodeDataChecked_eq h.length_blankRow]
  cases binding.format.data.decodeChecked bytes expected with
  | error fault => rfl
  | ok outcome =>
    cases outcome with
    | foreign actual => rfl
    | current values =>
      simp only [ok_bind]
      cases Row.store? binding.blankRow (binding.format.schema.data.zip values) with
      | none => rfl
      | some stored => rfl

/-- The writers outside the key are called for the values of data.  Foreign data has none. -/
theorem setsAll_decodeData (h : binding.WellBuilt) (bytes : Bytes) (expected : Option Nat) (target : σ) :
    SetsAll binding binding.format.schema.data (binding.format.data.decode bytes expected) target
      (binding.decodeData bytes expected target) := by
  unfold decodeData
  rw [decodeDataOrElse_eq h]
  cases hchecked : binding.format.data.decodeChecked bytes expected with
  | error fault =>
    rw [DataLayout.decode, hchecked]
    rfl
  | ok outcome =>
    have hdecode : binding.format.data.decode bytes expected = DataLayout.currentOnly expected outcome := by
      rw [DataLayout.decode, hchecked, ok_bind]
    cases outcome with
    | foreign actual =>
      rw [hdecode]
      rfl
    | current values =>
      have hlength := (DataLayout.length_of_decode hdecode).trans h.fields.data.length_eq.symm
      rw [hdecode]
      refine setsAll_store h.shared.nodup_data ?_ hlength target
      intro ordinal hordinal
      rw [h.length_eq]
      exact ((h.shared.mem_data ordinal).mp hordinal).1

/-- Data is foreign when a generation is expected and the data carries another one. -/
def IsForeign (binding : Binding σ) (bytes : Bytes) (expected : Option Nat) (actual : Nat) : Prop :=
  ∃ wanted, expected = some wanted ∧ binding.format.data.Foreign bytes wanted actual

/-- Foreign data is handed on with its generation, all bytes and the untouched object. -/
theorem decodeDataOrElse_of_foreign (h : binding.WellBuilt) {actual : Nat}
    (hforeign : binding.IsForeign bytes expected actual) (upgrade : Nat → Bytes → HostAction σ Unit)
    (target : σ) : binding.decodeDataOrElse bytes expected upgrade target = upgrade actual bytes target := by
  rw [decodeDataOrElse_eq h, DataLayout.decodeChecked_eq_foreign_iff.mpr hforeign]

/-- Nothing is handed on of data that is not foreign. -/
theorem decodeDataOrElse_of_not_foreign (h : binding.WellBuilt)
    (hforeign : ¬ ∃ actual, binding.IsForeign bytes expected actual)
    (upgrade : Nat → Bytes → HostAction σ Unit) (target : σ) :
    binding.decodeDataOrElse bytes expected upgrade target = binding.decodeData bytes expected target := by
  unfold decodeData
  rw [decodeDataOrElse_eq h, decodeDataOrElse_eq h]
  cases hchecked : binding.format.data.decodeChecked bytes expected with
  | error fault => rfl
  | ok outcome =>
    cases outcome with
    | foreign actual => exact absurd ⟨actual, DataLayout.decodeChecked_eq_foreign_iff.mp hchecked⟩ hforeign
    | current values => rfl

/-- A handler that takes down the generation of foreign data and does nothing else. -/
def takeDown : RecordFormat.ForeignHandler (Option Nat) := fun generation _ (_, row) =>
  .ok () (some generation, row)

/-- Writes the properties outside the key: a reader of rows that is given the handler above tells by what it has
taken down whether the row can be written. -/
def decodeDataRecorded (binding : Binding σ) (bytes : Bytes) (expected : Option Nat)
    (upgrade : Nat → Bytes → HostAction σ Unit) : HostAction σ Unit := fun target =>
  match binding.format.decodeData bytes expected (some takeDown) (none, binding.blankRow) with
  | .error fault _ => .error fault target
  | .ok _ (some generation, _) => upgrade generation bytes target
  | .ok _ (none, row) => binding.writeFrom row binding.format.schema.data target

/-- Taking down the generation tells foreign data from other data. -/
theorem decodeDataRecorded_eq (binding : Binding σ) (bytes : Bytes) (expected : Option Nat)
    (upgrade : Nat → Bytes → HostAction σ Unit) :
    binding.decodeDataRecorded bytes expected upgrade = binding.decodeDataOrElse bytes expected upgrade := by
  funext target
  unfold decodeDataRecorded decodeDataOrElse RecordFormat.decodeData
  dsimp only
  cases binding.format.decodeDataChecked bytes expected binding.blankRow with
  | error fault => rfl
  | ok outcome =>
    cases outcome with
    | current row => rfl
    | foreign generation => rfl

/-! ## Snapshots -/

/-- States are put into an object behind calls of its writers, if none of them failed. -/
def putAfter (access : SlotAccess σ) (slots : Slots) :
    EStateM.Result Fault σ Unit → EStateM.Result Fault σ Unit
  | .ok _ host => .ok () (access.put slots host)
  | .error fault host => .error fault host

/-- Snapshots are not read without access to the states. -/
theorem decodeSnapshot_of_none (h : binding.slots = none) (bytes : Bytes) (target : σ) :
    binding.decodeSnapshot bytes target =
      .error (.illegal (.noStates binding.format.typeName)) target := by
  unfold decodeSnapshot slotAccess
  rw [h]
  rfl

/-- The writers of all properties are called for the values of a snapshot, and then its states are put into the
object: those of the snapshot in the place of the first ones that the object had before, and the others as they
were. -/
theorem exists_sets_decodeSnapshot (h : binding.WellBuilt) {access : SlotAccess σ}
    (haccess : binding.slots = some access) (bytes : Bytes) (target : σ) :
    ∃ result replaced,
      SetsAll binding (List.range binding.format.schema.size) (Prod.fst <$> binding.format.snapshot.contents bytes)
        target result ∧
      binding.decodeSnapshot bytes target = putAfter access replaced result ∧
      ∀ values states, binding.format.snapshot.contents bytes = .ok (values, states) →
        replaced = (access.get target).replaceFirst binding.format.schema.size states.get := by
  have hdecode : binding.decodeSnapshot bytes target =
      (ofExcept (binding.format.decodeSnapshot bytes binding.blankRow (access.get target)) >>= fun found =>
        binding.writeFrom found.1 (List.range binding.accessors.length) >>= fun _ =>
          modify (access.put found.2)) target := by
    unfold decodeSnapshot slotAccess
    rw [haccess]
    rfl
  rw [hdecode, RecordFormat.decodeSnapshot_eq h.length_blankRow h.fields.length_eq]
  cases hcontents : binding.format.snapshot.contents bytes with
  | error fault => exact ⟨.error fault target, access.get target, rfl, rfl, nofun⟩
  | ok found =>
    rcases found with ⟨values, states⟩
    have hlength : values.length = binding.format.schema.size :=
      (SnapshotLayout.length_contents hcontents).trans h.fields.length_eq
    have hselect : Row.select? values (List.range binding.format.schema.size) = some values := by
      rw [← hlength]
      exact Row.select?_range values
    have hordinals : ∀ ordinal ∈ List.range binding.format.schema.size, ordinal < binding.accessors.length := by
      intro ordinal hordinal
      rw [h.length_eq]
      exact List.mem_range.mp hordinal
    have hsets := sets_writeFrom hselect hordinals target
    refine ⟨_, (access.get target).replaceFirst binding.format.schema.size states.get,
      ⟨List.nodup_range, hlength.trans List.length_range.symm, hsets⟩, ?_, ?_⟩
    · rw [ok_bind, ofExcept_bind_of_ok rfl, h.length_eq]
      simp only [Bind.bind, EStateM.bind]
      cases binding.writeFrom values (List.range binding.format.schema.size) target with
      | ok found host => rfl
      | error fault host => rfl
    · intro _ _ hsame
      cases hsame
      rfl

/-! ## Bindings that were built -/

/-- The decoders of a binding that was built read everything before they call a writer.  What cannot be read leaves
the object as it was, and what was read goes to the writers at the key ordinals, at the data ordinals or at all
ordinals, in order, each called once, up to the first that fails.  Foreign data goes to the given upgrade with its
generation, all bytes and the untouched object, no other data does, and without an upgrade it is damage.  The states
of a snapshot take the place of the first ones that the object had before, when no writer has failed. -/
theorem decoders_write_last {typeName : String} {declarations : List Declaration} {schema : Schema}
    {padding : RecordPadding} {format : RecordFormat} {requests : List (Request σ)}
    (hschema : Schema.build declarations = .ok schema)
    (hformat : RecordFormat.build typeName schema padding = .ok format)
    (hbinding : ((Builder.start format).follow requests).build = .ok binding) (bytes : Bytes) (target : σ) :
    SetsAll binding schema.key (format.key.decode bytes .all) target (binding.decodeKey bytes target) ∧
    (∀ expected : Option Nat,
      SetsAll binding schema.data (format.data.decode bytes expected) target
        (binding.decodeData bytes expected target) ∧
      (∀ actual, binding.IsForeign bytes expected actual →
        binding.decodeData bytes expected target =
          .error (.corrupt (.generation (expected.getD 0) actual)) target ∧
        ∀ upgrade, binding.decodeDataOrElse bytes expected upgrade target = upgrade actual bytes target) ∧
      ((¬ ∃ actual, binding.IsForeign bytes expected actual) → ∀ upgrade,
        binding.decodeDataOrElse bytes expected upgrade target = binding.decodeData bytes expected target) ∧
      ∀ upgrade,
        binding.decodeDataRecorded bytes expected upgrade = binding.decodeDataOrElse bytes expected upgrade) ∧
    (binding.slots = none →
      binding.decodeSnapshot bytes target = .error (.illegal (.noStates format.typeName)) target) ∧
    ∀ access, binding.slots = some access →
      ∃ result replaced,
        SetsAll binding (List.range schema.size) (Prod.fst <$> format.snapshot.contents bytes) target result ∧
        binding.decodeSnapshot bytes target = putAfter access replaced result ∧
        ∀ values states, format.snapshot.contents bytes = .ok (values, states) →
          replaced.size = max (access.get target).size schema.size ∧
          ∀ ordinal, replaced.get ordinal =
            if ordinal < schema.size then states.get ordinal else (access.get target).get ordinal := by
  have h := wellBuilt_of_build hschema hformat hbinding
  obtain rfl : format.schema = schema := RecordFormat.schema_of_build hformat
  obtain rfl : binding.format = format := Builder.format_of_build hbinding
  refine ⟨setsAll_decodeKey h bytes target, ?_, fun hnone => decodeSnapshot_of_none hnone bytes target, ?_⟩
  · intro expected
    refine ⟨setsAll_decodeData h bytes expected target, ?_, ?_, ?_⟩
    · intro actual hforeign
      exact ⟨decodeDataOrElse_of_foreign h hforeign _ target, fun upgrade =>
        decodeDataOrElse_of_foreign h hforeign upgrade target⟩
    · intro hforeign upgrade
      exact decodeDataOrElse_of_not_foreign h hforeign upgrade target
    · intro upgrade
      exact binding.decodeDataRecorded_eq bytes expected upgrade
  · intro access haccess
    rcases exists_sets_decodeSnapshot h haccess bytes target with ⟨result, replaced, hsets, hdecode, hreplaced⟩
    refine ⟨result, replaced, hsets, hdecode, ?_⟩
    intro values states hcontents
    rw [hreplaced values states hcontents]
    exact ⟨Slots.size_replaceFirst _ _ _, Slots.get_replaceFirst _ _ _⟩

/-- A writer that takes down what it is given, and fails behind that where it has a fault to report. -/
def takingDown (fault : Option Fault) : Accessor (List Value × Slots) where
  get := pure .null
  set value := fun (log, slots) =>
    match fault with
    | none => .ok () (log ++ [value], slots)
    | some fault => .error fault (log ++ [value], slots)

/-- A record whose rank cannot be written. -/
def fixedRank : Binding (List Value × Slots) where
  format := RecordFormat.interleavedRecord
  accessors :=
    [takingDown none, takingDown (some (.unsupportedType "rank" "fixed")), takingDown none, takingDown none]
  slots := some ⟨Prod.snd, fun slots (log, _) => (log, slots)⟩

/-- Where the rank cannot be written, the reading in front of it in the key has been, and the flag in front of it in
a snapshot, whose states are not taken over; what cannot be read and foreign data leave the object as it was. -/
theorem decoders_write_last_fixedRank :
    fixedRank.decodeKey [0, 127, 255, 255, 255, 255, 255, 255, 255, 128, 7] ([], Slots.empty 5) =
      .error (.unsupportedType "rank" "fixed")
        ([.of (.float .double) 0#64, .of (.signed .w16) 7], Slots.empty 5) ∧
    fixedRank.decodeKey [0, 127] ([], Slots.empty 5) = .error (.corrupt (.keyTooShort 11 2)) ([], Slots.empty 5) ∧
    (∀ upgrade, fixedRank.decodeDataOrElse [6, 1, 255] (some 5) upgrade ([], Slots.empty 5) =
      upgrade 6 [6, 1, 255] ([], Slots.empty 5)) ∧
    fixedRank.decodeSnapshot [13, 1, 0, 7] ([], Slots.empty 5) =
      .error (.unsupportedType "rank" "fixed") ([.of .bool true, .of (.signed .w16) 7], Slots.empty 5) := by
  have hschema : Schema.build RecordFormat.interleaved = .ok RecordFormat.interleavedRecord.schema := rfl
  have hformat : RecordFormat.build "Interleaved" RecordFormat.interleavedRecord.schema
      RecordFormat.interleavedRecord.padding = .ok RecordFormat.interleavedRecord := rfl
  have hbinding : ((Builder.start RecordFormat.interleavedRecord).follow
      [.bind "reading" (takingDown none), .bind "rank" (takingDown (some (.unsupportedType "rank" "fixed"))),
        .trackSlots ⟨Prod.snd, fun slots (log, _) => (log, slots)⟩, .bind "flag" (takingDown none),
        .bind "label" (takingDown none)]).build = .ok fixedRank := rfl
  have hforeign : fixedRank.IsForeign [6, 1, 255] (some 5) 6 := by
    apply DataLayout.decodeChecked_eq_foreign_iff.mp
    decide
  have hkey : RecordFormat.interleavedRecord.key.decode
      [0, 127, 255, 255, 255, 255, 255, 255, 255, 128, 7] .all =
      .ok [.of (.float .double) 0#64, .of (.signed .w16) 7] := by decide
  have hshort : RecordFormat.interleavedRecord.key.decode [0, 127] .all =
      .error (.corrupt (.keyTooShort 11 2)) := by decide
  have hdecoders := @decoders_write_last _ fixedRank _ _ _ _ _ _ hschema hformat hbinding
  refine ⟨?_, ?_, ?_, ?_⟩
  · have hsets := (hdecoders [0, 127, 255, 255, 255, 255, 255, 255, 255, 128, 7] ([], Slots.empty 5)).1
    rw [hkey] at hsets
    exact hsets.2.2.unique (Sets.next rfl rfl (Sets.stopped rfl rfl))
  · have hsets := (hdecoders [0, 127] ([], Slots.empty 5)).1
    rwa [hshort] at hsets
  · exact (((hdecoders [6, 1, 255] ([], Slots.empty 5)).2.1 (some 5)).2.1 6 hforeign).2
  · rcases (hdecoders [13, 1, 0, 7] ([], Slots.empty 5)).2.2.2 _ rfl with ⟨result, replaced, hsets, hdecode, -⟩
    rw [hdecode, hsets.2.2.unique (Sets.next rfl rfl (Sets.stopped rfl rfl))]
    rfl

end Binding
end RecordBytes
