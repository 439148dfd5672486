import RecordBytes.Bytes.Basic

/-!
# The end of a stretch of keys

The byte strings that begin with a given string are contiguous in lexicographic order.  This module
computes where the stretch ends: the least string above all of them.

Main results:

- `Bytes.successor_nil`, `Bytes.successor_cons_of_some`, `Bytes.successor_cons_of_none`: the byte to
  raise is the last one below 255; the bytes after it are dropped.
-/

namespace RecordBytes.Bytes

/-- The least string above every string that begins with `lead`; none when no string is, that is,
when `lead` is empty or made of bytes 255 only. -/
def successor? : (lead : Bytes) → Option Bytes
  | [] => none
  | byte :: rest =>
    match successor? rest with
    | some rest => some (byte :: rest)
    | none => if byte = 255 then none else some [byte + 1]

theorem successor_nil : successor? [] = none := rfl

theorem successor_cons_of_some {byte : UInt8} {rest next : Bytes}
    (h : successor? rest = some next) : successor? (byte :: rest) = some (byte :: next) := by
  simp [successor?, h]

theorem successor_cons_of_none {byte : UInt8} {rest : Bytes} (h : successor? rest = none) :
    successor? (byte :: rest) = if byte = 255 then none else some [byte + 1] := by
  simp [successor?, h]

end RecordBytes.Bytes
