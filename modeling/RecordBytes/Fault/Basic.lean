import RecordBytes.Text.Utf8
import RecordBytes.Value.Basic

/-!
# Faults

Work on byte forms fails for one of three causes.  A caller may ask for something that the schema does
not allow, bytes may be damaged, or a property may have no byte form at all.  Each cause is a
constructor with the facts that explain it; the wording is in one place, `Fault.message`.

Main definitions:

- `Refusal`: the ways to break the contract of a call.
- `Damage`: the ways in which bytes fail to be what they should be.
- `Fault`: either of them, or a property whose type cannot be stored.
- `Fault.generations`: the two generations of a mismatch.
- `inBounds`, `withinWord`: what has to be inside, a stretch or a length.
-/

namespace RecordBytes

/-- The ways to break the contract of a call. -/
inductive Refusal
  /-- Host code refused, in its own words. -/
  | byHost (message : String)
  /-- A value of another kind was given to be written. -/
  | wrongKind (kind : Kind) (given : String)
  /-- A value that may not be missing was missing. -/
  | missing (kind : Kind)
  | bigintTooLong
  | exponentOutOfRange
  | scaleOutOfRange (scale : Int)
  | lengthTooLarge (length : Nat)
  | generationTooLarge (generation : Nat)
  | startOutOfRange (start count : Nat)
  | stopOutOfRange (stop count : Nat)
  | startPastStop (start stop : Nat)
  | notNullable (property : String)
  /-- A property was given a value of another type. -/
  | unexpectedType (property expected actual : String) (value : Value)
  | tooFewKeyValues (needed given : Nat)
  | dataValueCount (expected given : Nat)
  | snapshotValueCount (expected given : Nat)
  | snapshotSlotCount (expected given : Nat)
  | noDataField (index count : Nat)
  | duplicateName (name : String)
  | ordinalOutOfRange (ordinal : Nat) (name : String) (count : Nat)
  | ordinalTaken (ordinal : Nat) (name : String)
  | rowLength (typeName : String) (count given : Nat)
  | notDataOrdinal (ordinal : Nat)
  | tooManyLeading (leading count : Nat)
  | unknownProperty (typeName property : String)
  | boundTwice (property : String)
  | unbound (property typeName : String)
  | noStates (typeName : String)
deriving DecidableEq

/-- The ways in which bytes fail to be what they should be. -/
inductive Damage
  /-- Host code refused stored content, in its own words. -/
  | byHost (message : String)
  | endOfInput (what : String)
  | nullMarker (byte : UInt8)
  | presenceByte (byte : UInt8)
  | boolByte (byte : UInt8)
  | charScalar (number : Nat)
  | notText (fault : Utf8Fault)
  | unterminated
  | escape (byte : UInt8)
  | bigintSign
  | decimalMarker (byte : UInt8)
  | decimalDigit (byte : UInt8)
  | noDigits
  | exponentOutOfRange
  | lengthMarker (byte : UInt8)
  | nullSentinel (kind : Kind)
  | stateBytes (needed given : Nat)
  | keyTooShort (needed given : Nat)
  | dataTooShort (needed given : Nat)
  | afterKey (count : Nat)
  | afterData (count : Nat)
  | afterSnapshot (count : Nat)
  | bareNullMarker
  | barePresenceByte
  /-- Data carries another generation than the one expected. -/
  | generation (expected actual : Nat)
  /-- The damage is in the bytes of a property. -/
  | inProperty (name : String) (damage : Damage)
deriving DecidableEq

/-- Why work on byte forms failed. -/
inductive Fault
  /-- The property is stored as a type without a byte form. -/
  | unsupportedType (property typeName : String)
  | illegal (refusal : Refusal)
  | corrupt (damage : Damage)
  /-- A stretch of a buffer, row or field list was asked for that does not lie inside it, or a length that no machine
  word holds. -/
  | outOfBounds
deriving DecidableEq

/-- The expected and the actual generation, when damage is a mismatch of generations. -/
def Damage.generations : Damage → Option (Nat × Nat)
  | .generation expected actual => some (expected, actual)
  | .inProperty _ damage => damage.generations
  | _ => none

namespace Fault

/-- Whether the bytes are at fault. -/
def isCorrupt : Fault → Bool
  | corrupt _ => true
  | _ => false

/-- Whether the schema or the caller is at fault. -/
def isConfiguration : Fault → Bool
  | unsupportedType _ _ | illegal _ => true
  | _ => false

/-- The expected and the actual generation of a mismatch. -/
def generations : Fault → Option (Nat × Nat)
  | corrupt damage => damage.generations
  | _ => none

end Fault

/-- A refusal is a fault. -/
instance : MonadLift (Except Refusal) (Except Fault) where
  monadLift result := result.mapError Fault.illegal

/-- Damage is a fault. -/
instance : MonadLift (Except Damage) (Except Fault) where
  monadLift result := result.mapError Fault.corrupt

/-- A stretch that has to be there. -/
def inBounds {α : Type} : Option α → Except Fault α
  | some found => .ok found
  | none => .error .outOfBounds

/-- The numbers of a machine word are those below this one. -/
def wordBound : Nat :=
  0x1_0000_0000_0000_0000

/-- Work that adds up a length first.  Nothing guards the sum: where it does not fit in a machine word, the work ends
there, and nothing after the sum is done. -/
@[macro_inline]
def withinWord {m : Type → Type} [MonadExcept Fault m] {α : Type} (length : Nat) (work : m α) : m α :=
  if length < wordBound then work else throw .outOfBounds

theorem withinWord_of_lt {m : Type → Type} [MonadExcept Fault m] {α : Type} {length : Nat} (h : length < wordBound)
    (work : m α) : withinWord length work = work :=
  if_pos h

theorem withinWord_of_le {m : Type → Type} [MonadExcept Fault m] {α : Type} {length : Nat} (h : wordBound ≤ length)
    (work : m α) : withinWord length work = throw .outOfBounds :=
  if_neg (Nat.not_lt.mpr h)

/-- The stretch of a list from `start` up to but not including `stop`; none when it is not inside. -/
def slice? {α : Type} (items : List α) (start stop : Nat) : Option (List α) :=
  if start ≤ stop ∧ stop ≤ items.length then some ((items.take stop).drop start) else none

end RecordBytes
