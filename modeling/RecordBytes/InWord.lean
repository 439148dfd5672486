import RecordBytes.Binding

/-!
# Decoding in machine words

Before a decoder reads anything, it asks its bytes for their least length, which is a sum: the padding, the least
sizes of the cells, and a byte for an expected generation.  The layouts add in natural numbers.  A program adds in
machine words and does not look whether the sum fits, and where it does not, it asks for bytes that are not there.
The decoders here are those of the layouts, formats and bindings behind such sums, and are the ones that a program
runs.  What a decoder refuses before it asks for a length is refused as it is there.

Main definitions:

- `KeyLayout.decodeInWord`, `KeyLayout.decodePartInWord`: keys.
- `DataLayout.decodeInWord`, `DataLayout.decodeCheckedInWord`, `DataLayout.decodeFieldInWord`: data.
- `RecordFormat.decodeKeyInWord`, `RecordFormat.decodeDataInWord`, `RecordFormat.decodeDataFieldInWord`: into rows.
- `Binding.decodeKeyInWord`, `Binding.decodeDataInWord`, `Binding.decodeDataOrElseInWord`: into objects.
-/

namespace RecordBytes

/-! ## Keys -/

namespace KeyLayout

/-- Work on the part of a key that covers a span, behind the least length of that part. -/
def measuring {m : Type → Type} [MonadExcept Fault m] {α : Type} (layout : KeyLayout) (span : Span) (work : m α) :
    m α :=
  match layout.run? span with
  | some run => withinWord (layout.leastSizeIn run) work
  | none => work

/-- The values of the part of a key that bounds name. -/
def decodeInWord (layout : KeyLayout) (bytes : Bytes) (bounds : Bounds) : Except Fault (List Value) := do
  let span ← layout.resolve bounds
  layout.measuring span (layout.decode bytes bounds)

/-- The values of a span out of a whole key, whatever the span, for which the whole key is measured. -/
def decodePartInWord (layout : KeyLayout) (key : Bytes) (bounds : Bounds) : Except Fault (List Value) := do
  let _ ← layout.resolve bounds
  layout.measuring (Span.full layout.fields.length) (layout.decodePart key bounds)

end KeyLayout

/-! ## Data -/

namespace DataLayout

/-- The values of data. -/
def decodeInWord (layout : DataLayout) (bytes : Bytes) (expected : Option Nat) : Except Fault (List Value) :=
  withinWord (layout.leastSizeWith expected) (layout.decode bytes expected)

/-- The values of data, or the generation of data that is not of the expected one. -/
def decodeCheckedInWord (layout : DataLayout) (bytes : Bytes) (expected : Option Nat) :
    Except Fault (Outcome (List Value)) :=
  withinWord (layout.leastSizeWith expected) (layout.decodeChecked bytes expected)

/-- The value of the field at an index. -/
def decodeFieldInWord (layout : DataLayout) (bytes : Bytes) (expected : Option Nat) (index : Nat) :
    Except Fault Value :=
  if index < layout.fields.length then
    withinWord (layout.leastSizeWith expected) (layout.decodeField bytes expected index)
  else layout.decodeField bytes expected index

end DataLayout

/-! ## Rows -/

namespace RecordFormat

/-- A row with the values of a key, or of the part that bounds name. -/
def decodeKeyInWord (format : RecordFormat) (bytes : Bytes) (bounds : Bounds) (row : Row) : Except Fault Row := do
  format.checkRow row
  let span ← format.key.resolve bounds
  format.key.measuring span (format.decodeKey bytes bounds row)

/-- Puts the values of data into a row.  Foreign data goes to the handler; without one it is damage. -/
def decodeDataInWord {σ : Type} (format : RecordFormat) (bytes : Bytes) (expected : Option Nat)
    (handler : Option (ForeignHandler σ)) : EStateM Fault (σ × Row) Unit := fun (host, row) =>
  if row.length = format.schema.size then
    withinWord (format.data.leastSizeWith expected) (format.decodeData bytes expected handler) (host, row)
  else format.decodeData bytes expected handler (host, row)

/-- The value of one property outside the key. -/
def decodeDataFieldInWord (format : RecordFormat) (bytes : Bytes) (ordinal : Nat) (expected : Option Nat) :
    Except Fault Value :=
  if ordinal ∈ format.schema.data then
    withinWord (format.data.leastSizeWith expected) (format.decodeDataField bytes ordinal expected)
  else format.decodeDataField bytes ordinal expected

end RecordFormat

/-! ## Host objects -/

namespace Binding

variable {σ : Type}

/-- Writes the key properties of an object. -/
def decodeKeyInWord (binding : Binding σ) (bytes : Bytes) : HostAction σ Unit :=
  let key := binding.format.key
  key.measuring (Span.full key.fields.length) (binding.decodeKey bytes)

/-- Writes the properties of an object outside its key; foreign data goes to `upgrade`, with its generation
and all its bytes. -/
def decodeDataOrElseInWord (binding : Binding σ) (bytes : Bytes) (expected : Option Nat)
    (upgrade : Nat → Bytes → HostAction σ Unit) : HostAction σ Unit :=
  withinWord (binding.format.data.leastSizeWith expected) (binding.decodeDataOrElse bytes expected upgrade)

/-- Writes the properties of an object outside its key; foreign data is damage. -/
def decodeDataInWord (binding : Binding σ) (bytes : Bytes) (expected : Option Nat) : HostAction σ Unit :=
  withinWord (binding.format.data.leastSizeWith expected) (binding.decodeData bytes expected)

end Binding
end RecordBytes
