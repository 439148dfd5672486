import RecordBytes.Cursor

/-!
# Escaped byte strings

A byte string of any length is written so that its end shows and order is kept: a zero byte becomes zero
and one, and two zeros end the string.  A string sorts before its extensions because the terminator is
below everything that can stand in its place.

Main results:

- `Escaped.encode`, `Escaped.read`, `Escaped.skip`: writing, reading and passing over.
- `Escaped.length_encode`: the length of the written form.
- `Escaped.skip_eq`: passing over goes where reading goes.
-/

namespace RecordBytes.Escaped

/-- The escaped form of a byte string. -/
def encode : Bytes → Bytes
  | [] => [0, 0]
  | byte :: rest => if byte = 0 then 0 :: 1 :: encode rest else byte :: encode rest

/-- The length of the escaped form. -/
def size (content : Bytes) : Nat :=
  content.length + content.count 0 + 2

@[simp]
theorem length_encode (content : Bytes) : (encode content).length = size content := by
  induction content with
  | nil => rfl
  | cons byte rest ih =>
    by_cases h : byte = 0 <;> simp_all [encode, size] <;> omega

/-- Puts a byte before the content that a scan found. -/
def prepend (byte : UInt8) :
    EStateM.Result Damage Cursor Bytes → EStateM.Result Damage Cursor Bytes
  | .ok content cursor => .ok (byte :: content) cursor
  | .error damage cursor => .error damage cursor

/-- Reads escaped content from unread bytes; `afterZero` says whether the byte before them was a zero
that awaits its partner. -/
def readFrom (mask : UInt8) (position : Nat) (afterZero : Bool) :
    Bytes → EStateM.Result Damage Cursor Bytes
  | [] => .error .unterminated ⟨position, [], mask⟩
  | masked :: rest =>
    let byte := masked ^^^ mask
    if afterZero then
      if byte = 0 then .ok [] ⟨position + 1, rest, mask⟩
      else if byte = 1 then prepend 0 (readFrom mask (position + 1) false rest)
      else .error (.escape byte) ⟨position + 1, rest, mask⟩
    else if byte = 0 then readFrom mask (position + 1) true rest
    else prepend byte (readFrom mask (position + 1) false rest)

/-- Reads an escaped byte string up to and with its terminator. -/
def read : Scan Bytes := fun cursor =>
  readFrom cursor.mask cursor.position false cursor.unread

/-- Passes over escaped content in unread bytes. -/
def skipFrom (mask : UInt8) (position : Nat) (afterZero : Bool) : Bytes → EStateM.Result Damage Cursor Unit
  | [] => .error .unterminated ⟨position, [], mask⟩
  | masked :: rest =>
    let byte := masked ^^^ mask
    if afterZero then
      if byte = 0 then .ok () ⟨position + 1, rest, mask⟩
      else if byte = 1 then skipFrom mask (position + 1) false rest
      else .error (.escape byte) ⟨position + 1, rest, mask⟩
    else if byte = 0 then skipFrom mask (position + 1) true rest
    else skipFrom mask (position + 1) false rest

/-- Passes over an escaped byte string up to and with its terminator. -/
def skip : Scan Unit := fun cursor =>
  skipFrom cursor.mask cursor.position false cursor.unread

/-- What a scan came to, without the content that it found. -/
def forget : EStateM.Result Damage Cursor Bytes → EStateM.Result Damage Cursor Unit
  | .ok _ cursor => .ok () cursor
  | .error damage cursor => .error damage cursor

@[simp]
theorem forget_prepend (byte : UInt8) (result : EStateM.Result Damage Cursor Bytes) :
    forget (prepend byte result) = forget result := by
  cases result <;> rfl

theorem skipFrom_eq (mask : UInt8) (position : Nat) (afterZero : Bool) (unread : Bytes) :
    skipFrom mask position afterZero unread = forget (readFrom mask position afterZero unread) := by
  induction unread generalizing position afterZero with
  | nil => rfl
  | cons masked rest ih =>
    simp only [skipFrom, readFrom, ih]
    split
    · split
      · rfl
      split
      · rw [forget_prepend]
      · rfl
    · split
      · rfl
      · rw [forget_prepend]

/-- Passing over goes where reading goes, and fails where it fails. -/
theorem skip_eq (cursor : Cursor) : skip cursor = forget (read cursor) :=
  skipFrom_eq _ _ _ _

end RecordBytes.Escaped
