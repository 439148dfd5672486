import RecordBytes.Fault.Basic
import RecordBytes.Sortable.SortOrder
import RecordBytes.Text.Quoted

/-!
# Properties of a record

A property has a name, a type, and may allow missing values.  It is stored as its own type, or through an
adapter as another one.  A custom type of the host has no byte form of its own.

Main definitions:

- `PropertyType`: a kind, or a custom type by name.
- `Adapter`: how values go into storage and come back.
- `Property.storage`: the type a property is stored as.
-/

namespace RecordBytes

/-- The type of a property as the host sees it. -/
inductive PropertyType
  | plain (kind : Kind)
  | custom (name : String)
deriving DecidableEq

namespace PropertyType

/-- The name of a type. -/
def name : PropertyType → String
  | plain kind => kind.name
  | custom name => name

/-- The kind of values of this type, where they have a byte form. -/
def kind? : PropertyType → Option Kind
  | plain kind => some kind
  | custom _ => none

/-- Whether a value is there and of this type; no value is known to be of a custom type. -/
def accepts (type : PropertyType) (value : Value) : Bool :=
  match type with
  | plain kind => kind.accepts value
  | custom _ => false

/-- What a property of this type is reset to; a custom type has no zero. -/
def zero (type : PropertyType) (nullable : Bool) : Value :=
  match type with
  | plain kind => Value.zero kind nullable
  | custom _ => .null

/-- A type as shown to a reader. -/
def shown : PropertyType → String
  | plain kind => kind.tag
  | custom name => "Opaque(" ++ Text.Quoted.text name ++ ")"

end PropertyType

/-- Conversions, supplied by the host, between a property's values and what is stored for them. -/
structure Adapter where
  name : String
  storage : PropertyType
  store : Value → Except Fault Value
  load : Value → Except Fault Value

/-- An adapter as shown to a reader. -/
def Adapter.shown (adapter : Adapter) : String :=
  "Adapter \x7b name: " ++ Text.Quoted.text adapter.name ++ ", storage_type: " ++
    adapter.storage.shown ++ ", .. \x7d"

/-- A property of a record type. -/
structure Property where
  name : String
  type : PropertyType
  nullable : Bool
  order : SortOrder
  adapter : Option Adapter
  /-- The place of the property in a row. -/
  ordinal : Nat

namespace Property

/-- The type that the property is stored as. -/
def storage (property : Property) : PropertyType :=
  match property.adapter with
  | some adapter => adapter.storage
  | none => property.type

end Property
end RecordBytes
