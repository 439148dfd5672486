import RecordBytes.Format

/-!
# A registry of record formats

A registry keeps the format that was built first for each record type and padding, and hands it out for as
long as it is not cleared.  There is a shelf for each record type, on which its formats stand by padding.
Every format that is built gets a number of its own, so that two formats built for the same type can be told
apart.

Main definitions:

- `Table.put`: a value under a key; `List.lookup` finds it.
- `Registry.get?`: the format kept for a type and padding.
- `Registry.getOrBuild`: the format kept, or else a new one.
- `Registry.size`, `Registry.isEmpty`, `Registry.clear`: the number of formats kept, and forgetting them.
-/

namespace RecordBytes

/-! ## Tables -/

/-- Values under keys. -/
abbrev Table (κ α : Type) := List (κ × α)

/-- A table with a value under a key, in place of the one that was there. -/
def Table.put {κ α : Type} [BEq κ] (key : κ) (value : α) : Table κ α → Table κ α
  | [] => [(key, value)]
  | (other, kept) :: rest =>
    if key == other then (key, value) :: rest else (other, kept) :: put key value rest

/-! ## Registries -/

/-- A format with the number it was given when it was built. -/
structure Registered where
  number : Nat
  format : RecordFormat

/-- The formats kept, by record type and then by padding, and how many were ever built. -/
structure Registry where
  shelves : Table String (Table RecordPadding Registered)
  built : Nat

namespace Registry

/-- A registry that keeps nothing. -/
def empty : Registry := ⟨[], 0⟩

/-- The formats kept for a record type. -/
def shelf (registry : Registry) (typeName : String) : Table RecordPadding Registered :=
  (registry.shelves.lookup typeName).getD []

/-- The format kept for a type and padding. -/
def get? (registry : Registry) (typeName : String) (padding : RecordPadding) : Option Registered :=
  (registry.shelf typeName).lookup padding

/-- Keeps a new format, unless another one was kept for the type and padding while it was built: then that
one is handed out. -/
def keep (registry : Registry) (typeName : String) (padding : RecordPadding) (entry : Registered) :
    Registered × Registry :=
  match registry.get? typeName padding with
  | some winner => (winner, registry)
  | none =>
    let shelf := Table.put padding entry (registry.shelf typeName)
    (entry, { registry with shelves := Table.put typeName shelf registry.shelves })

/-- The format kept for a type and padding, whatever the schema; or else the one of the schema, which is
kept from then on.  Where none can be built, nothing changes. -/
def getOrBuild (registry : Registry) (typeName : String) (schema : Schema)
    (padding : RecordPadding) : Except Fault (Registered × Registry) :=
  match registry.get? typeName padding with
  | some entry => .ok (entry, registry)
  | none => do
    let entry : Registered := ⟨registry.built, ← RecordFormat.build typeName schema padding⟩
    return { registry with built := registry.built + 1 }.keep typeName padding entry

-- Sums of natural numbers are those of the core library, whatever else is imported.
attribute [local instance(2000)] Zero.ofOfNat0

/-- The number of formats kept. -/
def size (registry : Registry) : Nat :=
  (registry.shelves.map fun shelf => shelf.2.length).sum

/-- Whether nothing is kept. -/
def isEmpty (registry : Registry) : Bool :=
  registry.size == 0

/-- The registry with nothing kept; formats built later still get new numbers. -/
def clear (registry : Registry) : Registry :=
  { registry with shelves := [] }

end Registry
end RecordBytes
