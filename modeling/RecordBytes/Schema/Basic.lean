import RecordBytes.Schema.Property

/-!
# Schemas

A schema orders the properties of a record type.  Each property has an ordinal, its place in a row, which
is pinned by its declaration or else the place of the declaration.  The key consists of the key properties
in the order of their declarations, the data of all others in the order of their ordinals.

Main definitions:

- `Schema.build`: the schema of some declarations, or the first declaration that does not fit.
- `Schema.find?`: a property by name.
-/

namespace RecordBytes

/-- Whether a property belongs to the key. -/
inductive Role
  | key
  | data
deriving DecidableEq, Repr

/-- A property as it is declared; the ordinal in `property` is replaced by the pinned one, or by the place
of the declaration. -/
structure Declaration where
  role : Role
  pinned : Option Nat
  property : Property

/-- The properties of a record type. -/
structure Schema where
  /-- All properties, by ordinal. -/
  properties : List Property
  /-- The ordinals of the key properties, in key order. -/
  key : List Nat
  /-- The ordinals of the other properties, in increasing order. -/
  data : List Nat

namespace Schema

/-- The number of properties. -/
def size (schema : Schema) : Nat :=
  schema.properties.length

/-- The property of a given name. -/
def find? (schema : Schema) (name : String) : Option Property :=
  schema.properties.find? (·.name == name)

/-- The properties at some ordinals. -/
def select (schema : Schema) (ordinals : List Nat) : List Property :=
  ordinals.filterMap (schema.properties[·]?)

/-- The key properties, in key order. -/
def keyProperties (schema : Schema) : List Property :=
  schema.select schema.key

/-- The other properties, in the order of their ordinals. -/
def dataProperties (schema : Schema) : List Property :=
  schema.select schema.data

/-- A declared property with its ordinal, where name and ordinal are free and the ordinal is below
`count`; `position` is the place of the declaration and `placed` holds the properties before it. -/
def place (count position : Nat) (placed : List Property) (declaration : Declaration) :
    Except Refusal Property :=
  let property := { declaration.property with ordinal := declaration.pinned.getD position }
  if placed.any (·.name == property.name) then .error (.duplicateName property.name)
  else if count ≤ property.ordinal then
    .error (.ordinalOutOfRange property.ordinal property.name count)
  else if placed.any (·.ordinal == property.ordinal) then
    .error (.ordinalTaken property.ordinal property.name)
  else .ok property

/-- The declared properties with their ordinals, in the order of the declarations, behind those that were
placed before. -/
def placeAll (count : Nat) (placed : List Property) :
    List Declaration → Except Refusal (List Property)
  | [] => .ok placed
  | declaration :: rest => do
    let property ← place count placed.length placed declaration
    placeAll count (placed ++ [property]) rest

/-- The ordinals of the declarations of a role, in the order of the declarations. -/
def ordinalsOf (role : Role) (declarations : List Declaration) (placed : List Property) : List Nat :=
  (declarations.zip placed).filterMap fun (declaration, property) =>
    if declaration.role = role then some property.ordinal else none

/-- The schema of some declarations. -/
def build (declarations : List Declaration) : Except Refusal Schema := do
  let count := declarations.length
  let placed ← placeAll count [] declarations
  let key := ordinalsOf .key declarations placed
  return {
    properties := (List.range count).filterMap fun ordinal => placed.find? (·.ordinal == ordinal)
    key := key
    data := (List.range count).filter (· ∉ key) }

end Schema
end RecordBytes
