import RecordBytes.Value.Kind

/-!
# Values

A value is missing, or has a kind and a content of that kind.

Main definitions:

- `Value.accepts`: whether a value is of a kind; a missing value is of none.
- `Value.equal`: equality as a program compares values.
- `Value.int?`, `Value.float?`, `Value.text?` and the other views of the content.
-/

namespace RecordBytes

/-- A missing value, or a content with its kind. -/
inductive Value
  | null
  | of (kind : Kind) (content : kind.Content)
deriving DecidableEq

/-- The values of a record's properties, by ordinal. -/
abbrev Row := List Value

namespace Value

instance : Inhabited Value := ⟨null⟩

/-- Whether the value is missing. -/
def isNull : Value → Bool
  | null => true
  | of _ _ => false

/-- The kind of a value that is there. -/
def kind? : Value → Option Kind
  | null => none
  | of kind _ => some kind

/-- The content of a value of the given kind. -/
def content? (kind : Kind) : Value → Option kind.Content
  | null => none
  | of actual content => if h : actual = kind then some (h ▸ content) else none

/-- The short name of what a value is. -/
def typeName : Value → String
  | null => "null"
  | of kind _ => kind.name

/-- The zero of a kind, or no value where the property may be missing. -/
def zero (kind : Kind) (nullable : Bool) : Value :=
  if nullable then null else of kind kind.zero

/-- Equality as a program compares values: values of different kinds differ. -/
def equal : Value → Value → Bool
  | null, null => true
  | of kind content, other =>
    match other.content? kind with
    | some content' => kind.equal content content'
    | none => false
  | null, of _ _ => false

/-- The truth value of a Boolean. -/
def bool? (value : Value) : Option Bool :=
  value.content? .bool

/-- A fixed-size integer that a signed 64-bit integer can hold. -/
def int? : Value → Option Int64
  | of (.signed _) bits => int64? bits.toInt
  | of (.unsigned _) bits => int64? bits.toNat
  | _ => none

/-- A floating-point number in double precision. -/
def float? : Value → Option Precision.double.Bits
  | of (.float .single) bits => some (Floating.widen bits)
  | of (.float .double) bits => some bits
  | _ => none

/-- The text of a text value. -/
def text? (value : Value) : Option String :=
  value.content? .text

/-- The bytes of a byte array. -/
def bytes? (value : Value) : Option Bytes :=
  value.content? .bytes

/-- The number of a large object. -/
def lob? (value : Value) : Option (BitVec 64) :=
  value.content? .lob

@[simp]
theorem content?_of (kind : Kind) (content : kind.Content) :
    (of kind content).content? kind = some content := by
  simp [content?]

@[simp]
theorem content?_null (kind : Kind) : null.content? kind = none := rfl

/-- A value has a content of a kind exactly when it is that content with that kind. -/
theorem content?_eq_some_iff {kind : Kind} {value : Value} {content : kind.Content} :
    value.content? kind = some content ↔ value = of kind content := by
  constructor
  · cases value with
    | null => simp
    | of actual stored =>
      by_cases h : actual = kind
      · subst h
        simp
      · simp [content?, h]
  · rintro rfl
    simp

end Value

/-- Whether a value is there and of the kind. -/
def Kind.accepts (kind : Kind) (value : Value) : Bool :=
  (value.content? kind).isSome

end RecordBytes
