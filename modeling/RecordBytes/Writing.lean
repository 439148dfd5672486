import RecordBytes.Fault.Basic

/-!
# Writing at the end of a buffer

Forms are written one behind the other into one buffer.  A step of writing puts bytes behind those that are
there, or is refused, perhaps after it has put some.  A stretch that is to be complemented is written first and
then flipped where it stands, from the place where it began.

Main definitions:

- `Writing.put`, `Writing.putForm`: bytes as they are.
- `Writing.complemented`: a stretch that is complemented in place.
-/

namespace RecordBytes

/-- A step of writing: it changes a buffer, or is refused. -/
abbrev Writing := EStateM Refusal Bytes Unit

namespace Writing

/-- Puts bytes behind those of the buffer. -/
def put (bytes : Bytes) : Writing := fun buffer =>
  .ok () (buffer ++ bytes)

/-- Puts a form behind the bytes of the buffer, if there is one. -/
def putForm : Except Refusal Bytes → Writing
  | .ok form => put form
  | .error refusal => throw refusal

/-- Flips every bit of the buffer from a place on. -/
def complementFrom (start : Nat) : Writing := fun buffer =>
  .ok () (buffer.take start ++ Bytes.complement (buffer.drop start))

/-- Writes a stretch and complements it where it stands. -/
def complemented (write : Writing) : Writing := do
  let start := (← get).length
  write
  complementFrom start

end Writing
end RecordBytes
