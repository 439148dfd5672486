import RecordBytes.Format

/-!
# Bindings to host objects

A binding reads and writes the properties of a host object through accessors, one for each property.  An
encoder calls the readers of exactly the properties that it writes.  A decoder calls the writers, in order,
only after all bytes have been read; the first one that fails ends the work, and what was written before it
stays.

Main definitions:

- `Binding.Builder.bind`, `Binding.Builder.build`: giving the accessors by name.
- `Binding.encodeKey`, `Binding.encodeData`, `Binding.encodeSnapshot`: from an object to bytes.
- `Binding.decodeKey`, `Binding.decodeData`, `Binding.decodeDataOrElse`, `Binding.decodeSnapshot`: from
  bytes into an object.
-/

namespace RecordBytes

/-- Work on a host object that may fail. -/
abbrev HostAction (σ α : Type) := EStateM Fault σ α

/-- How a property of a host object is read and written. -/
structure Accessor (σ : Type) where
  get : StateM σ Value
  set : Value → HostAction σ Unit

/-- How the property states of a host object are read and replaced.  The states are only looked at, so `get` is a
function; the reader of a property is an action, which may keep count of its calls in the object. -/
structure SlotAccess (σ : Type) where
  get : σ → Slots
  put : Slots → σ → σ

/-- A record format with the accessors of a host type, by ordinal. -/
structure Binding (σ : Type) where
  format : RecordFormat
  accessors : List (Accessor σ)
  slots : Option (SlotAccess σ)

namespace Binding

variable {σ : Type}

/-! ## Giving the accessors -/

/-- A binding under construction.  The first mistake is kept, and later properties are ignored. -/
structure Builder (σ : Type) where
  format : RecordFormat
  accessors : List (Option (Accessor σ))
  slots : Option (SlotAccess σ)
  mistake : Option Refusal

namespace Builder

/-- A binding without accessors. -/
def start (format : RecordFormat) : Builder σ :=
  ⟨format, List.replicate format.schema.size none, none, none⟩

/-- Gives the accessor of a property. -/
def bind (builder : Builder σ) (name : String) (accessor : Accessor σ) : Builder σ :=
  if builder.mistake.isSome then builder
  else
    match builder.format.schema.find? name with
    | none => { builder with mistake := some (.unknownProperty builder.format.typeName name) }
    | some property =>
      match builder.accessors[property.ordinal]? with
      | some none =>
        { builder with accessors := builder.accessors.set property.ordinal (some accessor) }
      | _ => { builder with mistake := some (.boundTwice name) }

/-- Gives the access to the property states. -/
def trackSlots (builder : Builder σ) (access : SlotAccess σ) : Builder σ :=
  { builder with slots := some access }

/-- The accessors, if every property has one. -/
def collect (typeName : String) :
    List (Property × Option (Accessor σ)) → Except Refusal (List (Accessor σ))
  | [] => .ok []
  | (_, some accessor) :: rest => do return accessor :: (← collect typeName rest)
  | (property, none) :: _ => .error (.unbound property.name typeName)

/-- The binding, if no mistake was made and every property has an accessor. -/
def build (builder : Builder σ) : Except Refusal (Binding σ) :=
  match builder.mistake with
  | some mistake => .error mistake
  | none => do
    let format := builder.format
    let accessors ← collect format.typeName (format.schema.properties.zip builder.accessors)
    return ⟨format, accessors, builder.slots⟩

end Builder

/-! ## Rows of host objects -/

/-- An outcome that needs no work on the object. -/
def ofExcept {α : Type} : Except Fault α → HostAction σ α
  | .ok found => pure found
  | .error fault => throw fault

/-- The accessor of a property. -/
def accessor (binding : Binding σ) (ordinal : Nat) : HostAction σ (Accessor σ) :=
  ofExcept (inBounds binding.accessors[ordinal]?)

/-- A row of missing values. -/
def blankRow (binding : Binding σ) : Row :=
  List.replicate binding.accessors.length .null

/-- Reads some properties into a row, in the given order. -/
def readInto (binding : Binding σ) (row : Row) : (ordinals : List Nat) → HostAction σ Row
  | [] => pure row
  | ordinal :: rest => do
    let accessor ← binding.accessor ordinal
    let value ← fun host => let (value, host) := accessor.get host; .ok value host
    binding.readInto (row.set ordinal value) rest

/-- Writes some properties from a row, in the given order. -/
def writeFrom (binding : Binding σ) (row : Row) : (ordinals : List Nat) → HostAction σ Unit
  | [] => pure ()
  | ordinal :: rest => do
    let accessor ← binding.accessor ordinal
    accessor.set (← ofExcept (inBounds row[ordinal]?))
    binding.writeFrom row rest

/-- The access to the property states. -/
def slotAccess (binding : Binding σ) : Except Refusal (SlotAccess σ) :=
  match binding.slots with
  | some access => .ok access
  | none => .error (.noStates binding.format.typeName)

/-! ## Encoding and decoding -/

/-- The key of an object, or the part that bounds name. -/
def encodeKey (binding : Binding σ) (bounds : Bounds) : HostAction σ Bytes := do
  let row ← binding.readInto binding.blankRow binding.format.schema.key
  ofExcept (binding.format.encodeKey row bounds)

/-- Writes the key properties of an object. -/
def decodeKey (binding : Binding σ) (bytes : Bytes) : HostAction σ Unit := do
  let row ← ofExcept (binding.format.decodeKey bytes .all binding.blankRow)
  binding.writeFrom row binding.format.schema.key

/-- The data of an object. -/
def encodeData (binding : Binding σ) (generation : Option Nat) : HostAction σ Bytes := do
  let row ← binding.readInto binding.blankRow binding.format.schema.data
  ofExcept (binding.format.encodeData row generation)

/-- Writes the properties of an object outside its key; foreign data goes to `upgrade`, with its generation
and all its bytes. -/
def decodeDataOrElse (binding : Binding σ) (bytes : Bytes) (expected : Option Nat)
    (upgrade : Nat → Bytes → HostAction σ Unit) : HostAction σ Unit := do
  match ← ofExcept (binding.format.decodeDataChecked bytes expected binding.blankRow) with
  | .current row => binding.writeFrom row binding.format.schema.data
  | .foreign generation => upgrade generation bytes

/-- Writes the properties of an object outside its key; foreign data is damage. -/
def decodeData (binding : Binding σ) (bytes : Bytes) (expected : Option Nat) :
    HostAction σ Unit :=
  binding.decodeDataOrElse bytes expected fun actual _ =>
    throw (.corrupt (.generation (expected.getD 0) actual))

/-- The snapshot of an object; only its assigned properties are read. -/
def encodeSnapshot (binding : Binding σ) : HostAction σ Bytes := do
  let access ← ofExcept (liftM binding.slotAccess)
  let slots := access.get (← get)
  let assigned := slots.assigned.filter (· < binding.accessors.length)
  let row ← binding.readInto binding.blankRow assigned
  ofExcept (binding.format.encodeSnapshot row slots)

/-- Writes all properties of an object, and then its property states. -/
def decodeSnapshot (binding : Binding σ) (bytes : Bytes) : HostAction σ Unit := do
  let access ← ofExcept (liftM binding.slotAccess)
  let slots := access.get (← get)
  let (row, slots) ← ofExcept (binding.format.decodeSnapshot bytes binding.blankRow slots)
  binding.writeFrom row (List.range binding.accessors.length)
  modify (access.put slots)

/-- A binding as shown to a reader. -/
def shown (binding : Binding σ) : String :=
  "StorableBinding \x7b type_name: " ++ Text.Quoted.text binding.format.typeName ++
    s!", properties: {binding.accessors.length}, tracks_states: {binding.slots.isSome} \x7d"

end Binding
end RecordBytes
