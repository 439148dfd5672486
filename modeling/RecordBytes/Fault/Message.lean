import RecordBytes.Fault.Basic
import RecordBytes.Value.Shown

/-!
# The wording of faults

Main definitions:

- `Refusal.message`, `Damage.message`: the wording of a cause.
- `Fault.message`: the wording of a fault, which names its class first.
-/

namespace RecordBytes

/-- A byte in hexadecimal: two digits behind `0x`. -/
def hexByte (byte : UInt8) : String :=
  "0x" ++ String.ofList [Nat.digitChar (byte.toNat / 16), Nat.digitChar (byte.toNat % 16)]

/-- The wording of a broken contract.  A value is shown in at most a hundred bytes. -/
def Refusal.message : Refusal → String
  | byHost message => message
  | wrongKind kind given => s!"{kind.name} codec cannot encode a {given} value"
  | missing kind => s!"non-nullable {kind.name} field has no value"
  | bigintTooLong => "big integer too long for key encoding"
  | exponentOutOfRange => "decimal exponent out of range"
  | scaleOutOfRange scale => s!"decimal scale {scale} out of range"
  | lengthTooLarge length => s!"length {length} exceeds u32::MAX"
  | generationTooLarge generation => s!"generation {generation} exceeds maximum 2147483647"
  | startOutOfRange start count =>
    s!"range start {start} must be less than the property count {count}"
  | stopOutOfRange stop count => s!"range end {stop} exceeds the property count {count}"
  | startPastStop start stop => s!"range start {start} is past end {stop}"
  | notNullable property => s!"property '{property}' is not nullable but has no value"
  | unexpectedType property expected actual value =>
    s!"property '{property}' expects {expected}, got {actual} " ++
      "(value: " ++ Text.Quoted.cut 100 value.shown ++ ")"
  | tooFewKeyValues needed given => s!"expected at least {needed} key values, got {given}"
  | dataValueCount expected given => s!"expected {expected} data values, got {given}"
  | snapshotValueCount expected given => s!"expected {expected} values, got {given}"
  | snapshotSlotCount expected given => s!"expected {expected} value slots, got {given}"
  | noDataField index count => s!"data property {index} requested, schema has {count}"
  | duplicateName name => s!"duplicate property name '{name}'"
  | ordinalOutOfRange ordinal name count =>
    s!"ordinal {ordinal} of '{name}' is out of range for {count} properties"
  | ordinalTaken ordinal name => s!"ordinal {ordinal} of '{name}' is already taken"
  | rowLength typeName count given => s!"{typeName} has {count} properties, row has {given}"
  | notDataOrdinal ordinal => s!"ordinal {ordinal} is not a data property"
  | tooManyLeading leading count =>
    s!"{leading} leading properties requested, key has {count}"
  | unknownProperty typeName property => s!"{typeName} has no property '{property}'"
  | boundTwice property => s!"property '{property}' is bound twice"
  | unbound property typeName => s!"property '{property}' of {typeName} has no accessor"
  | noStates typeName => s!"{typeName} binding has no property state accessor"

/-- The wording of damage. -/
def Damage.message : Damage → String
  | byHost message => message
  | endOfInput what => s!"unexpected end of input reading {what}"
  | nullMarker byte => s!"invalid null marker {hexByte byte}"
  | presenceByte byte => s!"invalid presence byte {hexByte byte}"
  | boolByte byte => s!"invalid bool byte {hexByte byte}"
  | charScalar number => s!"invalid char scalar 0x{Text.Quoted.hex number}"
  | notText fault => s!"invalid UTF-8: {fault.message}"
  | unterminated => "missing terminator in escaped bytes"
  | escape byte => s!"invalid escape sequence: 0x00 {hexByte byte}"
  | bigintSign => "big integer sign does not match its header"
  | decimalMarker byte => s!"invalid decimal marker {hexByte byte}"
  | decimalDigit byte => s!"invalid decimal digit byte {hexByte byte}"
  | noDigits => "decimal has no digits"
  | exponentOutOfRange => "decimal exponent out of range"
  | lengthMarker byte => s!"reserved length marker {hexByte byte}"
  | nullSentinel kind => s!"null sentinel in non-nullable {kind.name} field"
  | stateBytes needed given => s!"state bitmap needs {needed} bytes, got {given}"
  | keyTooShort needed given => s!"key needs at least {needed} bytes, got {given}"
  | dataTooShort needed given => s!"data needs at least {needed} bytes, got {given}"
  | afterKey count => s!"{count} trailing bytes after key"
  | afterData count => s!"{count} trailing bytes after data"
  | afterSnapshot count => s!"{count} trailing bytes after serial encoding"
  | bareNullMarker => "invalid null marker in byte-array key"
  | barePresenceByte => "invalid presence byte in byte-array data"
  | generation expected actual =>
    s!"generation mismatch (expected generation {expected}, actual {actual})"
  | inProperty name damage => s!"property '{name}': {damage.message}"

/-- The wording of a fault. -/
def Fault.message : Fault → String
  | unsupportedType property typeName =>
    s!"unsupported property type for '{property}': {typeName}"
  | illegal refusal => s!"illegal argument: {refusal.message}"
  | corrupt damage => s!"corrupt encoding: {damage.message}"
  | outOfBounds => "a stretch outside its buffer was asked for"

end RecordBytes
