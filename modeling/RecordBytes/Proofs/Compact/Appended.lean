import Mathlib
import RecordBytes.Compact.Writing
import RecordBytes.Proofs.Writing.Appends

/-!
# Compact cells behind what is there

The pieces of a compact cell, written one after another at the end of a buffer, are the cell as it is told
without a buffer, and where there is no cell they are refused for the same reason.

Main results:

- `Compact.appends_writeWithLength`, `Compact.appends_writeDecimal`: payloads of several pieces.
- `Compact.appends_write`: a cell is appended.
-/

namespace RecordBytes.Compact

open Writing

/-- Bytes are appended behind their length. -/
theorem appends_writeWithLength (payload : Bytes) : Appends (writeWithLength payload) (withLength payload) :=
  (Appends.putForm (LengthPrefix.encode payload.length)).bind (Appends.put payload)

/-- A decimal is appended with its scale behind it. -/
theorem appends_writeDecimal (decimal : Decimal) : Appends (writeDecimal decimal) (encodeDecimal decimal) := by
  unfold writeDecimal encodeDecimal
  dsimp only
  split
  · exact Appends.throw _
  · exact (appends_writeWithLength _).bind (Appends.put _)

/-- A content is appended in its compact form. -/
theorem appends_writeContent (kind : Kind) (content : kind.Content) :
    Appends (writeContent kind content) (encodeContent kind content) := by
  cases kind with
  | text => exact appends_writeWithLength _
  | bytes => exact appends_writeWithLength content
  | bigint => exact appends_writeWithLength _
  | decimal => exact appends_writeDecimal content
  | bool | char | signed | unsigned | float | lob => exact Appends.putForm (encodeContent _ content)

/-- A cell is appended. -/
theorem appends_write (kind : Kind) (nullable : Bool) (value : Value) :
    Appends (write kind nullable value) (encode kind nullable value) := by
  cases value with
  | null =>
    cases nullable with
    | true => exact Appends.put _
    | false => exact Appends.throw _
  | of given content =>
    simp only [write, encode]
    cases (Value.of given content).content? kind with
    | none => exact (Appends.throw _).putIf_bind (nullable && kind.width?.isSome) [present]
    | some content => exact (appends_writeContent kind content).putIf_bind (nullable && kind.width?.isSome) [present]

end RecordBytes.Compact
