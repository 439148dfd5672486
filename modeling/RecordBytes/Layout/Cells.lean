import RecordBytes.Field
import RecordBytes.Span

/-!
# Runs of cells

The cells of several fields, one after another, and the padding around them.  The padding before the first
field and after the last belongs to a run only if the run reaches that end of the field list.

Main definitions:

- `Cells.stored`: what is stored for the values of some fields.
- `Cells.size`, `Cells.fixedSize`, `Cells.leastSize`: the length of a run.
- `Cells.encode`, `Cells.read`, `Cells.skip`: writing, reading and passing over a run.
- `Padding.within`, `Padding.wrap`, `Padding.strip?`: the padding a span owns, put on and taken off.
- `Run`: a run of cells with its padding; `Run.encode` writes it behind a header, once it has a length.
-/

namespace RecordBytes

namespace Cells

/-- What is stored for the values of some fields. -/
def stored : (fields : List Field) → (values : List Value) → Except Fault (List Value)
  | field :: fields, value :: values => do
    let first ← field.stored value
    return first :: (← stored fields values)
  | _, _ => .ok []

/-- The length of a run of cells, where it does not depend on the values. -/
def fixedSize (form : Form) : (fields : List Field) → Option Nat
  | [] => some 0
  | field :: rest => do return (← field.fixedSize form) + (← fixedSize form rest)

/-- The least length of a run of cells. -/
def leastSize (form : Form) : (fields : List Field) → Nat
  | [] => 0
  | field :: rest => field.leastSize form + leastSize form rest

/-- The length of one cell: known from the field, or measured on the stored value. -/
def cellSize (form : Form) (field : Field) (stored : Value) : Except Refusal Nat :=
  match field.fixedSize form with
  | some size => .ok size
  | none => field.size form stored

/-- The length of the run of cells of stored values. -/
def size (form : Form) : (fields : List Field) → (stored : List Value) → Except Refusal Nat
  | field :: fields, value :: stored => do
    let first ← cellSize form field value
    return first + (← size form fields stored)
  | _, _ => .ok 0

/-- The run of cells of stored values. -/
def encode (form : Form) : (fields : List Field) → (stored : List Value) → Except Refusal Bytes
  | field :: fields, value :: stored => do
    let first ← field.encode form value
    return first ++ (← encode form fields stored)
  | _, _ => .ok []

/-- Reads a run of cells. -/
def read (form : Form) : (fields : List Field) → Reading (List Value)
  | [] => pure []
  | field :: rest => do
    let first ← field.read form
    return first :: (← read form rest)

/-- Passes over a run of cells. -/
def skip (form : Form) : (fields : List Field) → Reading Unit
  | [] => pure ()
  | field :: rest => do
    field.skip form
    skip form rest

end Cells

/-- The number of bytes reserved before and after a run of cells. -/
structure Padding where
  before : Nat
  after : Nat
deriving DecidableEq, Repr, Hashable

namespace Padding

/-- The padding that belongs to a span. -/
def within (padding : Padding) (span : Span) : Padding :=
  ⟨if span.isHead then padding.before else 0, if span.isTail then padding.after else 0⟩

/-- The number of padding bytes. -/
def size (padding : Padding) : Nat :=
  padding.before + padding.after

/-- A body with zero bytes as padding around it. -/
def wrap (padding : Padding) (body : Bytes) : Bytes :=
  List.replicate padding.before 0 ++ body ++ List.replicate padding.after 0

/-- What stands between the padding, where the bytes are long enough to hold the padding. -/
def strip? (padding : Padding) (bytes : Bytes) : Option Bytes :=
  if padding.after ≤ bytes.length then slice? bytes padding.before (bytes.length - padding.after)
  else none

/-- Taking off the padding gives back what it was put around. -/
theorem strip?_wrap (padding : Padding) (body : Bytes) :
    padding.strip? (padding.wrap body) = some body := by
  have hlength : (padding.wrap body).length = padding.before + body.length + padding.after := by
    simp [wrap, Nat.add_assoc]
  have hlead : (padding.wrap body).take (padding.before + body.length) =
      List.replicate padding.before 0 ++ body := by
    rw [wrap]
    exact List.take_left' (by simp)
  unfold strip? slice?
  rw [hlength, if_pos (by omega), if_pos (by omega), Nat.add_sub_cancel, hlead]
  rw [List.drop_left' (by simp)]

end Padding

/-- A run of cells in one form, with the padding around it. -/
structure Run where
  form : Form
  fields : List Field
  padding : Padding

namespace Run

/-- The run of the fields in a span, with the padding that belongs to it. -/
def ofSpan? (form : Form) (fields : List Field) (padding : Padding) (span : Span) : Option Run := do
  return ⟨form, ← span.of? fields, padding.within span⟩

/-- The length of the run with its padding, where it does not depend on the values. -/
def fixedSize (run : Run) : Option Nat :=
  (run.padding.size + ·) <$> Cells.fixedSize run.form run.fields

/-- The least length of the run with its padding. -/
def leastSize (run : Run) : Nat :=
  run.padding.size + Cells.leastSize run.form run.fields

/-- The length of the run of stored values with its padding, behind a header of some bytes. -/
def size (run : Run) (header : Nat) (stored : List Value) : Except Refusal Nat := do
  return run.padding.size + header + (← Cells.size run.form run.fields stored)

/-- The run of stored values behind a header, between the padding.  It is measured before it is written,
so a value that has no length is refused first. -/
def encode (run : Run) (header : Bytes) (stored : List Value) : Except Refusal Bytes := do
  let _ ← run.size header.length stored
  return run.padding.wrap (header ++ (← Cells.encode run.form run.fields stored))

end Run
end RecordBytes
