import RecordBytes.Bytes.Basic
import RecordBytes.Fault.Basic

/-!
# Slots of property states

Every property of an object is unassigned, clean or dirty.  A bitmap keeps the states in slots of two bits,
sixteen to a word; written out, a slot takes the same two bits, four to a byte.  A slot that was never set
reads as unassigned, and the bit pattern that no state has reads as dirty.

Main definitions:

- `Slots.get`, `Slots.set`, `Slots.markAllClean`, `Slots.clear`: reading and changing slots.
- `Slots.setInWord`: changing a slot that may be anywhere.
- `Slots.toBytes`, `Slots.ofBytes`: the written form of the first slots.
-/

namespace RecordBytes

/-- The state of a property. -/
inductive SlotState
  /-- No value was assigned. -/
  | unassigned
  /-- The value is the one that was loaded. -/
  | clean
  /-- The value was assigned after loading. -/
  | dirty
deriving DecidableEq, Repr

namespace SlotState

/-- The two bits of a state. -/
def bits : SlotState → Nat
  | unassigned => 0
  | clean => 1
  | dirty => 3

/-- The state in the two low-order bits of a number. -/
def ofBits (number : Nat) : SlotState :=
  match number % 4 with
  | 0 => unassigned
  | 1 => clean
  | _ => dirty

/-- Whether the property has a value. -/
def isAssigned (state : SlotState) : Bool :=
  state != unassigned

/-- The bits of a state give it back. -/
@[simp]
theorem ofBits_bits (state : SlotState) : ofBits state.bits = state := by
  cases state <;> rfl

end SlotState

/-- The number of words that some slots take. -/
def Slots.wordCount (size : Nat) : Nat :=
  (size + 15) / 16

/-- The states of `size` properties, sixteen to a word, the lowest slot in the low-order bits.  There are
as many words as the slots take. -/
structure Slots where
  words : List (BitVec 32)
  size : Nat
  length_words : words.length = Slots.wordCount size
deriving DecidableEq, Repr

namespace Slots

-- Powers of natural numbers are those of the core library, whatever else is imported.
attribute [local instance(2000)] instPowNat

/-- The number of bytes that some slots take when written out. -/
def byteCount (size : Nat) : Nat :=
  (size + 3) / 4

/-- Slots that are all unassigned. -/
def empty (size : Nat) : Slots :=
  ⟨List.replicate (wordCount size) 0, size, List.length_replicate⟩

/-- The state in the slot of `index` inside a word. -/
def slotOf (word : BitVec 32) (index : Nat) : SlotState :=
  .ofBits (word >>> (2 * index)).toNat

/-- A word with the slot of `index` replaced. -/
def replaceSlot (index : Nat) (state : SlotState) (word : BitVec 32) : BitVec 32 :=
  (word &&& ~~~(3#32 <<< (2 * index))) ||| (BitVec.ofNat 32 state.bits <<< (2 * index))

/-- The state of a property; one past the end is unassigned. -/
def get (slots : Slots) (ordinal : Nat) : SlotState :=
  if ordinal < slots.size then slotOf (slots.words.getD (ordinal / 16) 0) (ordinal % 16)
  else .unassigned

/-- The slots with room for at least `size` properties; new ones are unassigned. -/
def grow (slots : Slots) (size : Nat) : Slots :=
  if h : slots.size < size then
    ⟨slots.words ++ List.replicate (wordCount size - slots.words.length) 0, size, by
      have hwords := slots.length_words
      rw [List.length_append, List.length_replicate]
      unfold wordCount at hwords ⊢
      omega⟩
  else slots

/-- The slots with the state of one property replaced; they grow to hold it. -/
def set (slots : Slots) (ordinal : Nat) (state : SlotState) : Slots :=
  let grown := slots.grow (ordinal + 1)
  { grown with
    words := grown.words.modify (ordinal / 16) (replaceSlot (ordinal % 16) state)
    length_words := by rw [List.length_modify, grown.length_words] }

/-- The slots with the state of one property replaced, where the size that holds it fits in a machine word.  The slots
of a schema's properties are set without this look, since their count is such a size. -/
def setInWord (slots : Slots) (ordinal : Nat) (state : SlotState) : Except Fault Slots :=
  withinWord (ordinal + 1) (.ok (slots.set ordinal state))

/-- Whether a property has a value. -/
def isAssigned (slots : Slots) (ordinal : Nat) : Bool :=
  (slots.get ordinal).isAssigned

/-- The ordinals of the properties that have a value, in increasing order. -/
def assigned (slots : Slots) : List Nat :=
  (List.range slots.size).filter slots.isAssigned

/-- The slot of one property made clean if it is dirty. -/
def markClean (slots : Slots) (ordinal : Nat) : Slots :=
  if slots.get ordinal = .dirty then slots.set ordinal .clean else slots

/-- The slots with every dirty one made clean. -/
def markAllClean (slots : Slots) : Slots :=
  (List.range slots.size).foldl markClean slots

/-- The slots with every one made unassigned. -/
def clear (slots : Slots) : Slots :=
  { slots with
    words := slots.words.map fun _ => 0
    length_words := by rw [List.length_map, slots.length_words] }

/-! ## Written form -/

/-- The bits that the slot of `ordinal` puts into its byte, among the first `count` slots. -/
def slotBits (slots : Slots) (count ordinal : Nat) : Nat :=
  if ordinal < count then (slots.get ordinal).bits * 4 ^ (ordinal % 4) else 0

/-- The byte at `index` of the written form of the first `count` slots. -/
def byteAt (slots : Slots) (count index : Nat) : UInt8 :=
  UInt8.ofNat (slots.slotBits count (4 * index) + slots.slotBits count (4 * index + 1) +
    slots.slotBits count (4 * index + 2) + slots.slotBits count (4 * index + 3))

/-- The first `count` slots, four to a byte. -/
def toBytes (slots : Slots) (count : Nat) : Bytes :=
  (List.range (byteCount count)).map (slots.byteAt count)

/-- The state that written bytes give to a property. -/
def stateIn (bytes : Bytes) (ordinal : Nat) : SlotState :=
  .ofBits ((bytes.getD (ordinal / 4) 0).toNat / 4 ^ (ordinal % 4))

/-- The first `count` slots that bytes spell; later bytes are ignored. -/
def ofBytes (bytes : Bytes) (count : Nat) : Except Damage Slots :=
  if bytes.length < byteCount count then
    .error (.stateBytes (byteCount count) bytes.length)
  else
    .ok ((List.range count).foldl (fun slots ordinal => slots.set ordinal (stateIn bytes ordinal))
      (empty count))

@[simp]
theorem length_toBytes (slots : Slots) (count : Nat) :
    (slots.toBytes count).length = byteCount count := by
  simp [toBytes]

end Slots
end RecordBytes
