import Mathlib
import RecordBytes.Layout.Data
import RecordBytes.Layout.Key
import RecordBytes.Layout.Snapshot
import RecordBytes.Proofs.Cursor.Indexed
import RecordBytes.Proofs.Layout.Scanning

/-!
# Readers of layouts over an index

The readers of contents, cells, runs and whole layouts are put together from the calls of a cursor, so each of them
has a twin over an index.  Two loops walk over the unread bytes themselves; they are the same as loops that take one
byte after another, as often as there are bytes.

Main results:

- `Escaped.read_eq_readWithin`, `SortableDecimal.readDigits_eq_digitsWithin`: the two loops, one byte at a time.
- `Sortable.indexed_read`, `Sortable.indexed_skip`, `Compact.indexed_read`, `Compact.indexed_skip`: cells.
- `Cells.indexed_read`, `Cells.indexed_skip`: runs of cells.
- `KeyLayout.indexed_readBehind`, `DataLayout.indexed_readValues`, `DataLayout.indexed_readField`,
  `SnapshotLayout.indexed_readValues`: layouts.
-/

namespace RecordBytes

/-- Taking what a step finds as something else is what is done with its result, which keeps a failure. -/
theorem Scan.bind_pure_eq {α β : Type} {convert : α → β}
    {put : EStateM.Result Damage Cursor α → EStateM.Result Damage Cursor β}
    (hok : ∀ found after, put (.ok found after) = .ok (convert found) after)
    (herror : ∀ damage after, put (.error damage after) = .error damage after) (scan : Scan α) (cursor : Cursor) :
    (scan >>= fun found => pure (convert found)) cursor = put (scan cursor) := by
  simp only [Bind.bind, EStateM.bind]
  cases scan cursor with
  | ok found after => exact (hok found after).symm
  | error damage after => exact (herror damage after).symm

/-! ## Escaped byte strings -/

namespace Escaped

/-- Reads escaped content one byte after another, `limit` bytes at most. -/
def readWithin : (limit : Nat) → (afterZero : Bool) → Scan Bytes
  | 0, _ => throw .unterminated
  | limit + 1, afterZero => do
    let byte ← Cursor.blaming (fun _ => .unterminated) (Scan.byte "escaped bytes")
    if afterZero then
      if byte = 0 then return []
      else if byte = 1 then return 0 :: (← readWithin limit false)
      else throw (.escape byte)
    else if byte = 0 then readWithin limit true
    else return byte :: (← readWithin limit false)

/-- As many bytes as there are suffice. -/
theorem readWithin_length (mask : UInt8) (unread : Bytes) :
    ∀ (position : Nat) (afterZero : Bool),
      readWithin unread.length afterZero ⟨position, unread, mask⟩ = readFrom mask position afterZero unread := by
  induction unread with
  | nil => exact fun _ _ => rfl
  | cons masked rest ih =>
    intro position afterZero
    have hbyte : ∀ next : UInt8 → Scan Bytes,
        (Cursor.blaming (fun _ => Damage.unterminated) (Scan.byte "escaped bytes") >>= next)
          ⟨position, masked :: rest, mask⟩ = next (masked ^^^ mask) ⟨position + 1, rest, mask⟩ := fun _ => rfl
    have hprepend : ∀ (byte : UInt8) (cursor : Cursor),
        (readWithin rest.length false >>= fun found => pure (byte :: found)) cursor =
          prepend byte (readWithin rest.length false cursor) :=
      fun byte => Scan.bind_pure_eq (fun _ _ => rfl) (fun _ _ => rfl) _
    rw [List.length_cons, readWithin, hbyte, readFrom]
    cases afterZero with
    | true =>
      rw [if_pos rfl, if_pos rfl]
      split
      · rfl
      · split
        · rw [hprepend, ih]
        · rfl
    | false =>
      rw [if_neg Bool.false_ne_true, if_neg Bool.false_ne_true]
      split
      · exact ih _ _
      · rw [hprepend, ih]

theorem read_eq_readWithin : read = Cursor.count >>= fun limit => readWithin limit false := by
  funext cursor
  exact (readWithin_length cursor.mask cursor.unread cursor.position false).symm

theorem indexed_readWithin (limit : Nat) (afterZero : Bool) : Indexed (readWithin limit afterZero) := by
  induction limit generalizing afterZero with
  | zero => exact Indexed.throw _
  | succ limit ih =>
    refine ((Indexed.byte _).blaming _).bind fun byte => ?_
    have hlater : ∀ first : UInt8, Indexed (readWithin limit false >>= fun found => pure (first :: found)) :=
      fun first => (ih false).map _
    split
    · split
      · exact Indexed.pure []
      · split
        · exact hlater 0
        · exact Indexed.throw _
    · split
      · exact ih true
      · exact hlater byte

theorem indexed_read : Indexed read := by
  rw [read_eq_readWithin]
  exact Indexed.counting fun limit => indexed_readWithin limit false

theorem indexed_skip : Indexed skip := by
  have hskip : skip = read >>= fun _ => pure () := by
    funext cursor
    rw [skip_eq]
    exact (Scan.bind_pure_eq (fun _ _ => rfl) (fun _ _ => rfl) read cursor).symm
  rw [hskip]
  exact indexed_read.map _

end Escaped

/-! ## Decimals and integers of any size -/

namespace SortableDecimal

/-- Reads digits one byte after another, `limit` bytes at most. -/
def digitsWithin : (limit : Nat) → Scan (List Nat)
  | 0 => throw (.endOfInput "decimal digits")
  | limit + 1 => do
    let byte ← Scan.byte "decimal digits"
    if byte = 0 then return []
    else if byte ≤ 10 then return (byte.toNat - 1) :: (← digitsWithin limit)
    else throw (.decimalDigit byte)

/-- As many bytes as there are suffice. -/
theorem digitsWithin_length (mask : UInt8) (unread : Bytes) :
    ∀ position : Nat, digitsWithin unread.length ⟨position, unread, mask⟩ = digitsFrom mask position unread := by
  induction unread with
  | nil => exact fun _ => rfl
  | cons masked rest ih =>
    intro position
    have hbyte : ∀ next : UInt8 → Scan (List Nat),
        (Scan.byte "decimal digits" >>= next) ⟨position, masked :: rest, mask⟩ =
          next (masked ^^^ mask) ⟨position + 1, rest, mask⟩ := fun _ => rfl
    have hprepend : ∀ (digit : Nat) (cursor : Cursor),
        (digitsWithin rest.length >>= fun found => pure (digit :: found)) cursor =
          prepend digit (digitsWithin rest.length cursor) :=
      fun digit => Scan.bind_pure_eq (fun _ _ => rfl) (fun _ _ => rfl) _
    rw [List.length_cons, digitsWithin, hbyte, digitsFrom]
    split
    · rfl
    · split
      · rw [hprepend, ih]
      · rfl

theorem readDigits_eq_digitsWithin : readDigits = Cursor.count >>= digitsWithin := by
  funext cursor
  exact (digitsWithin_length cursor.mask cursor.unread cursor.position).symm

theorem indexed_digitsWithin (limit : Nat) : Indexed (digitsWithin limit) := by
  induction limit with
  | zero => exact Indexed.throw _
  | succ limit ih =>
    refine (Indexed.byte _).bind fun byte => ?_
    split
    · exact Indexed.pure []
    · split
      · exact ih.map _
      · exact Indexed.throw _

theorem indexed_readMagnitude : Indexed readMagnitude := by
  refine (Indexed.number 8 _).bind fun word => ?_
  rw [readDigits_eq_digitsWithin]
  exact (Indexed.counting indexed_digitsWithin).map _

theorem indexed_read : Indexed read := by
  refine (Indexed.byte _).bind fun marker => ?_
  split
  · exact Indexed.pure _
  · split
    · exact indexed_readMagnitude.bind fun _ => Indexed.ofExcept _
    · split
      · exact indexed_readMagnitude.complemented.bind fun _ => Indexed.ofExcept _
      · exact Indexed.throw _

end SortableDecimal

namespace Bigint

theorem indexed_readHeader : Indexed readHeader :=
  (Indexed.number 4 _).map _

theorem indexed_read : Indexed read := by
  refine indexed_readHeader.bind fun header => (Indexed.take _ _).bind fun payload => ?_
  dsimp only
  split
  · exact (Indexed.throw _).bind fun _ => Indexed.pure _
  · exact Indexed.pure _

theorem indexed_skip : Indexed skip :=
  indexed_readHeader.bind fun _ => Indexed.skip _ _

end Bigint

/-! ## Sortable cells -/

namespace Sortable

theorem indexed_readContent (kind : Kind) : Indexed (readContent kind) := by
  cases kind with
  | bool =>
    refine (Indexed.byte _).bind fun byte => ?_
    split
    · exact Indexed.pure _
    · split
      · exact Indexed.pure _
      · exact Indexed.throw _
  | char =>
    refine (Indexed.number 4 _).bind fun number => ?_
    split
    · exact Indexed.pure _
    · exact Indexed.throw _
  | signed width => exact (Indexed.number _ _).map _
  | unsigned width => exact (Indexed.number _ _).map _
  | float precision => exact (Indexed.number _ _).map _
  | text => exact Escaped.indexed_read.bind fun _ => Indexed.ofExcept _
  | bytes => exact Escaped.indexed_read
  | bigint => exact Bigint.indexed_read
  | decimal => exact SortableDecimal.indexed_read
  | lob => exact (Indexed.number _ _).map _

theorem indexed_skipContent (kind : Kind) : Indexed (skipContent kind) := by
  cases kind with
  | bool | char | signed | unsigned | float | lob => exact Indexed.skip _ _
  | text | bytes => exact Escaped.indexed_skip
  | bigint => exact Bigint.indexed_skip
  | decimal => exact SortableDecimal.indexed_read.map _

theorem indexed_readPresence (nullable : Bool) : Indexed (readPresence nullable) := by
  cases nullable with
  | false => exact Indexed.pure _
  | true =>
    refine (Indexed.byte _).bind fun marker => ?_
    split
    · exact Indexed.pure _
    · split
      · exact Indexed.pure _
      · exact Indexed.throw _

theorem indexed_read (kind : Kind) (nullable : Bool) : Indexed (read kind nullable) := by
  refine (indexed_readPresence nullable).bind fun present => ?_
  split
  · exact (indexed_readContent kind).map _
  · exact Indexed.pure _

theorem indexed_skip (kind : Kind) (nullable : Bool) : Indexed (skip kind nullable) := by
  refine (indexed_readPresence nullable).bind fun present => ?_
  split
  · exact indexed_skipContent kind
  · exact Indexed.pure _

end Sortable

/-! ## Compact cells -/

theorem LengthPrefix.indexed_read : Indexed read := by
  have htail : ∀ count high : Nat, Indexed (readTail count high) := fun _ _ => (Indexed.number _ _).map _
  refine (Indexed.byte _).bind fun first => ?_
  repeat' split
  · exact Indexed.pure _
  · exact htail _ _
  · exact htail _ _
  · exact htail _ _
  · exact htail _ _
  · exact Indexed.pure _
  · exact Indexed.throw _

namespace Compact

theorem indexed_readPayload (kind : Kind) (length : Nat) : Indexed (readPayload kind length) := by
  refine (Indexed.take _ _).bind fun payload => ?_
  split
  · exact (Indexed.take _ _).map _
  · exact Indexed.pure _

theorem indexed_skipPayload (kind : Kind) (length : Nat) : Indexed (skipPayload kind length) := by
  refine (Indexed.skip _ _).bind fun _ => ?_
  split
  · exact Indexed.skip _ _
  · exact Indexed.pure _

theorem indexed_readPresence (nullable : Bool) : Indexed (readPresence nullable) := by
  cases nullable with
  | false => exact Indexed.pure _
  | true =>
    refine (Indexed.byte _).bind fun byte => ?_
    split
    · exact Indexed.pure _
    · split
      · exact Indexed.pure _
      · exact Indexed.throw _

theorem indexed_readLength (kind : Kind) (nullable : Bool) : Indexed (readLength kind nullable) := by
  unfold readLength
  split
  · exact (indexed_readPresence nullable).map _
  · refine LengthPrefix.indexed_read.bind fun length => ?_
    split
    · exact Indexed.pure _
    · split
      · exact Indexed.pure _
      · exact Indexed.throw _

theorem indexed_read (kind : Kind) (nullable : Bool) : Indexed (read kind nullable) := by
  refine (indexed_readLength kind nullable).bind fun length => ?_
  split
  · exact Indexed.pure _
  · exact (indexed_readPayload kind _).bind fun _ => (Indexed.ofExcept _).map _

theorem indexed_skip (kind : Kind) (nullable : Bool) : Indexed (skip kind nullable) := by
  refine (indexed_readLength kind nullable).bind fun length => ?_
  split
  · exact Indexed.pure _
  · exact indexed_skipPayload kind _

end Compact

theorem Generation.indexed_read : Indexed read := by
  refine (Indexed.byte _).bind fun first => ?_
  split
  · exact Indexed.pure _
  · exact (Indexed.number _ _).map _

/-! ## Fields and runs of cells -/

namespace Reading

variable {α : Type}

theorem ofScan_eq_blaming (scan : Scan α) : ofScan scan = Cursor.blaming Fault.corrupt scan := by
  funext cursor
  simp only [ofScan, Cursor.blaming]
  cases scan cursor <;> rfl

theorem indexed_ofScan {scan : Scan α} (h : Indexed scan) : Indexed (ofScan scan) := by
  rw [ofScan_eq_blaming]
  exact h.blaming _

theorem indexed_ofExcept (outcome : Except Fault α) : Indexed (ofExcept outcome) := by
  cases outcome with
  | ok found => exact Indexed.pure found
  | error fault => exact Indexed.throw fault

theorem indexed_upToEnd {reading : Reading α} (h : Indexed reading) (damage : Nat → Damage) :
    Indexed (reading.upToEnd damage) := by
  refine h.bind fun found => ?_
  have hend : Indexed (Cursor.count >>= fun remaining =>
      (if remaining ≠ 0 then throw (.corrupt (damage remaining)) else pure found : Reading α)) := by
    refine Indexed.counting fun remaining => ?_
    split
    · exact Indexed.throw _
    · exact Indexed.pure _
  exact hend

end Reading

namespace Field

variable {form : Form}

theorem scanning_eq_blaming {α : Type} (field : Field) (scan : Scan α) :
    field.scanning scan = Cursor.blaming (fun damage => Fault.corrupt (.inProperty field.name damage)) scan := by
  funext cursor
  simp only [scanning, Cursor.blaming]
  cases scan cursor <;> rfl

theorem indexed_scanning {α : Type} (field : Field) {scan : Scan α} (h : Indexed scan) :
    Indexed (field.scanning scan) := by
  rw [scanning_eq_blaming]
  exact h.blaming _

theorem indexed_read (form : Form) (field : Field) : Indexed (field.read form) := by
  have hscan : Indexed (field.scan form) := by
    refine (Indexed.setMask _).bind fun _ => ?_
    cases form with
    | sortable => exact Sortable.indexed_read _ _
    | compact => exact Compact.indexed_read _ _
  exact (field.indexed_scanning hscan).bind fun _ => Reading.indexed_ofExcept _

theorem indexed_skip (form : Form) (field : Field) : Indexed (field.skip form) := by
  refine field.indexed_scanning ((Indexed.setMask _).bind fun _ => ?_)
  cases form with
  | sortable => exact Sortable.indexed_skip _ _
  | compact => exact Compact.indexed_skip _ _

end Field

namespace Cells

theorem indexed_read (form : Form) (fields : List Field) : Indexed (read form fields) := by
  induction fields with
  | nil => exact Indexed.pure []
  | cons field fields ih => exact (field.indexed_read form).bind fun _ => ih.map _

theorem indexed_skip (form : Form) (fields : List Field) : Indexed (skip form fields) := by
  induction fields with
  | nil => exact Indexed.pure ()
  | cons field fields ih => exact (field.indexed_skip form).bind fun _ => ih

end Cells

/-! ## Layouts -/

theorem KeyLayout.indexed_readBehind (before fields : List Field) : Indexed (readBehind before fields) :=
  (Cells.indexed_skip .sortable before).bind fun _ => Cells.indexed_read .sortable fields

namespace DataLayout

theorem indexed_readForeign (expected : Option Nat) : Indexed (readForeign expected) := by
  cases expected with
  | none => exact Indexed.pure none
  | some number => exact (Reading.indexed_ofScan Generation.indexed_read).map _

theorem indexed_readBehind {α : Type} (expected : Option Nat) {inner : Reading α} (h : Indexed inner) :
    Indexed (readBehind expected inner) := by
  refine (indexed_readForeign expected).bind fun foreign => ?_
  split
  · exact Indexed.pure _
  · exact h.map _

/-- A bare byte array is all that is unread. -/
theorem readBare_eq_rest (field : Field) :
    readBare field = Cursor.rest >>= fun unread => Reading.ofExcept (do
      field.logical (← Bare.decode field.nullable .barePresenceByte unread)) := by
  funext cursor
  simp only [readBare, Bind.bind, EStateM.bind, Cursor.rest]
  cases Bare.decode field.nullable .barePresenceByte cursor.unread <;> rfl

theorem indexed_readBare (field : Field) : Indexed (readBare field) := by
  rw [readBare_eq_rest]
  exact Indexed.peeking fun _ => Reading.indexed_ofExcept _

theorem indexed_readValues (layout : DataLayout) : Indexed layout.readValues := by
  unfold readValues
  split
  · exact (indexed_readBare _).map _
  · exact Reading.indexed_upToEnd (Cells.indexed_read .compact layout.fields) .afterData

theorem indexed_readField (layout : DataLayout) (index : Nat) (field : Field) :
    Indexed (layout.readField index field) := by
  unfold readField
  split
  · exact indexed_readBare _
  · exact (Cells.indexed_skip .compact _).bind fun _ => field.indexed_read .compact

end DataLayout

namespace SnapshotLayout

theorem indexed_readFrom (slots : Slots) (ordinal : Nat) (fields : List Field) :
    Indexed (readFrom slots ordinal fields) := by
  induction fields generalizing ordinal with
  | nil => exact Indexed.pure []
  | cons field fields ih =>
    have hfirst : Indexed (readField slots field ordinal) := by
      unfold readField
      split
      · exact field.indexed_read .compact
      · exact Reading.indexed_ofExcept _
    exact hfirst.bind fun _ => (ih (ordinal + 1)).map _

theorem indexed_readValues (layout : SnapshotLayout) (slots : Slots) : Indexed (layout.readValues slots) :=
  Reading.indexed_upToEnd (indexed_readFrom slots 0 layout.fields) .afterSnapshot

end SnapshotLayout

end RecordBytes
