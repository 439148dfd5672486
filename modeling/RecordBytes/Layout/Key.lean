import RecordBytes.Layout.Bare
import RecordBytes.Layout.Cells

/-!
# Keys

A key is the run of sortable cells of the key fields between its padding, so keys compare byte by byte as
their values do, field by field.  A part of a key covers a span of the fields; the parts of adjoining spans
put together are the whole key.  A key of a single ascending byte array is bare.

Main definitions:

- `KeyLayout.encode`, `KeyLayout.decode`: a key, or the part of a span, and its values back.
- `KeyLayout.decodePart`: the values of a span out of a whole key.
- `KeyLayout.run?`: the cells of a span with their padding, which tell the lengths.
-/

namespace RecordBytes

/-- The fields of a key, in key order, and the bytes reserved around it. -/
structure KeyLayout where
  fields : List Field
  padding : Padding

namespace KeyLayout

/-- The field of a key that is one bare byte array. -/
def bare? (layout : KeyLayout) : Option Field :=
  match layout.fields with
  | [field] => if field.kind = .bytes ∧ !field.order.isDescending then some field else none
  | _ => none

/-- The span that bounds name; a key of a single field has no parts, and any bounds name the whole. -/
def resolve (layout : KeyLayout) (bounds : Bounds) : Except Refusal Span :=
  if layout.fields.length = 1 then .ok (Span.full 1)
  else Span.resolve bounds layout.fields.length

/-- The cells of a span with the padding that belongs to it, where the span lies inside the key. -/
def run? (layout : KeyLayout) (span : Span) : Option Run :=
  Run.ofSpan? .sortable layout.fields layout.padding span

/-- The cells of all fields with the padding. -/
def run (layout : KeyLayout) : Run :=
  ⟨.sortable, layout.fields, layout.padding⟩

/-- The length of every key, where it does not depend on the values. -/
def fixedSize (layout : KeyLayout) : Option Nat :=
  layout.run.fixedSize

/-- The least length of a bare key. -/
def bareLeastSize (layout : KeyLayout) (field : Field) : Nat :=
  layout.padding.before + Bare.leastSize field.nullable + layout.padding.after

/-- The least length of the part of a key that is the given run, or of a bare key. -/
def leastSizeIn (layout : KeyLayout) (run : Run) : Nat :=
  match layout.bare? with
  | some field => layout.bareLeastSize field
  | none => run.leastSize

/-- The part of a key that covers a span, for values of all fields up to its end. -/
def encodeSpan (layout : KeyLayout) (values : List Value) (span : Span) : Except Fault Bytes := do
  if values.length < span.stop then
    throw (.illegal (.tooFewKeyValues span.stop values.length))
  let run ← inBounds (layout.run? span)
  let stored ← Cells.stored run.fields (← inBounds (span.of? values))
  match layout.bare? with
  | some field =>
    return layout.padding.wrap (stored.flatMap (Bare.encode field.nullable))
  | none => run.encode [] stored

/-- The part of a key that bounds name. -/
def encode (layout : KeyLayout) (values : List Value) (bounds : Bounds) : Except Fault Bytes := do
  layout.encodeSpan values (← layout.resolve bounds)

/-- What stands between some padding, in bytes of at least the needed length. -/
def body (needed : Nat) (padding : Padding) (bytes : Bytes) : Except Fault Bytes :=
  if bytes.length < needed then .error (.corrupt (.keyTooShort needed bytes.length))
  else inBounds (padding.strip? bytes)

/-- The value of a bare key. -/
def decodeBare (layout : KeyLayout) (field : Field) (bytes : Bytes) : Except Fault Value := do
  let body ← body (layout.bareLeastSize field) layout.padding bytes
  field.logical (← Bare.decode field.nullable .bareNullMarker body)

/-- The values of a span, out of the part of a key that covers it. -/
def decodeSpan (layout : KeyLayout) (bytes : Bytes) (span : Span) : Except Fault (List Value) := do
  match layout.bare? with
  | some field => return [← layout.decodeBare field bytes]
  | none =>
    let run ← inBounds (layout.run? span)
    let body ← body run.leastSize run.padding bytes
    let (values, cursor) ← (Cells.read .sortable run.fields).runOn body
    if cursor.remaining ≠ 0 then throw (.corrupt (.afterKey cursor.remaining))
    return values

/-- The values of the part of a key that bounds name. -/
def decode (layout : KeyLayout) (bytes : Bytes) (bounds : Bounds) : Except Fault (List Value) := do
  layout.decodeSpan bytes (← layout.resolve bounds)

/-- Reads the cells of some fields behind those of others. -/
def readBehind (before fields : List Field) : Reading (List Value) := do
  Cells.skip .sortable before
  Cells.read .sortable fields

/-- The values of a span out of a whole key: the cells before the span are passed over, and those after it
are not looked at. -/
def decodePart (layout : KeyLayout) (key : Bytes) (bounds : Bounds) :
    Except Fault (List Value) := do
  let span ← layout.resolve bounds
  match layout.bare? with
  | some _ => layout.decode key .all
  | none =>
    let body ← body layout.run.leastSize layout.padding key
    let before ← inBounds (slice? layout.fields 0 span.start)
    let fields ← inBounds (span.of? layout.fields)
    let (values, _) ← (readBehind before fields).runOn body
    return values

end KeyLayout
end RecordBytes
