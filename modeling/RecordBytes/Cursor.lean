import RecordBytes.Bytes.BigEndian
import RecordBytes.Fault.Basic

/-!
# Reading bytes from the front

A cursor holds the bytes that are still unread, how many were read before them, and a mask that is
combined by exclusive or with every byte as it is read, so that a complemented stretch can be read in
place.  A scan is a step of reading: it yields something and moves the cursor, or finds damage.

Main definitions:

- `Cursor.start`: a cursor before the first byte.
- `Scan.byte`, `Scan.peek`, `Scan.take`, `Scan.skip`: the primitive steps; one that asks for more than is
  left fails and leaves the cursor where it was.
- `Scan.complemented`: a stretch that is read with the mask flipped.
-/

namespace RecordBytes

/-- A place in a byte string. -/
structure Cursor where
  /-- The number of bytes before the cursor. -/
  position : Nat
  /-- The bytes from the cursor on, as they are in the string. -/
  unread : Bytes
  /-- What every byte is combined with as it is read. -/
  mask : UInt8
deriving DecidableEq, Repr

/-- The cursor before the first byte of a string. -/
def Cursor.start (bytes : Bytes) (mask : UInt8) : Cursor :=
  ⟨0, bytes, mask⟩

/-- The number of bytes from the cursor on. -/
def Cursor.remaining (cursor : Cursor) : Nat :=
  cursor.unread.length

/-- The cursor `count` bytes further on. -/
def Cursor.advance (cursor : Cursor) (count : Nat) : Cursor :=
  { cursor with position := cursor.position + count, unread := cursor.unread.drop count }

/-- A step of reading. -/
abbrev Scan (α : Type) := EStateM Damage Cursor α

namespace Scan

variable {α : Type}

/-- The outcome of a scan from the start of some bytes, with the cursor it ends at. -/
def runOn (scan : Scan α) (bytes : Bytes) (mask : UInt8) : Except Damage (α × Cursor) :=
  match scan (Cursor.start bytes mask) with
  | .ok found cursor => .ok (found, cursor)
  | .error damage _ => .error damage

/-- The next byte, read. -/
def byte (what : String) : Scan UInt8 := fun cursor =>
  match cursor.unread with
  | [] => .error (.endOfInput what) cursor
  | first :: _ => .ok (first ^^^ cursor.mask) (cursor.advance 1)

/-- The next byte, left in place. -/
def peek (what : String) : Scan UInt8 := fun cursor =>
  match cursor.unread with
  | [] => .error (.endOfInput what) cursor
  | first :: _ => .ok (first ^^^ cursor.mask) cursor

/-- The next `count` bytes. -/
def take (count : Nat) (what : String) : Scan Bytes := fun cursor =>
  if cursor.remaining < count then .error (.endOfInput what) cursor
  else .ok ((cursor.unread.take count).map (· ^^^ cursor.mask)) (cursor.advance count)

/-- The next `count` bytes, passed over. -/
def skip (count : Nat) (what : String) : Scan Unit := fun cursor =>
  if cursor.remaining < count then .error (.endOfInput what) cursor
  else .ok () (cursor.advance count)

/-- The next `count` bytes as a number, most significant byte first. -/
def number (count : Nat) (what : String) : Scan Nat := do
  return BigEndian.toNat (← take count what)

/-- The mask for what follows. -/
def setMask (mask : UInt8) : Scan Unit := fun cursor =>
  .ok () { cursor with mask := mask }

/-- A scan of a complemented stretch; the mask is restored behind it, and on damage too.  A reader that runs out of
bytes inside the stretch may be left with the mask flipped, where no one can tell: after damage nothing is read. -/
def complemented (scan : Scan α) : Scan α := fun cursor =>
  match scan { cursor with mask := ~~~cursor.mask } with
  | .ok found after => .ok found { after with mask := cursor.mask }
  | .error damage after => .error damage { after with mask := cursor.mask }

/-- An outcome that needs no reading. -/
def ofExcept : Except Damage α → Scan α
  | .ok found => pure found
  | .error damage => throw damage

end Scan
end RecordBytes
