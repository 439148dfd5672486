import Mathlib
import RecordBytes.Proofs.Compact.Reading
import RecordBytes.Proofs.Cursor.Behind
import RecordBytes.Proofs.Cursor.Passing

/-!
# Scanning compact cells

Whatever bytes are next, the reader of a compact cell keeps to those it moves over, which are never fewer than
the least length of the cell.  Passing over a cell goes alongside reading it and leaves out only the checks of
the payload: whether a Boolean or a character is one, and whether text is text.

Main results:

- `Compact.confined_read`: the reader keeps to the cell.
- `Compact.passedBy_skip`: passing over goes alongside reading.
-/

namespace RecordBytes

/-! ## Lengths -/

theorem LengthPrefix.confined_readTail (count high : Nat) : Scan.Confined count (readTail count high) :=
  (Scan.confined_number count _).bind_free fun _ => Confined.pure _

theorem LengthPrefix.confined_read : Scan.Confined 1 read := by
  apply (Scan.confined_byte _).bind_free
  intro first
  split
  · exact Confined.pure _
  split
  · exact (confined_readTail 1 _).weaken (Nat.zero_le _)
  split
  · exact (confined_readTail 2 _).weaken (Nat.zero_le _)
  split
  · exact (confined_readTail 3 _).weaken (Nat.zero_le _)
  split
  · exact (confined_readTail 4 _).weaken (Nat.zero_le _)
  split
  · exact Confined.pure _
  · exact Confined.throw rfl

namespace Compact

theorem confined_readPresence (nullable : Bool) :
    Scan.Confined (if nullable then 1 else 0) (readPresence nullable) := by
  cases nullable with
  | false => exact Confined.pure true
  | true =>
    apply (Scan.confined_byte _).bind_free
    intro byte
    split
    · exact Confined.pure _
    split
    · exact Confined.pure _
    · exact Confined.throw rfl

/-! ## Payloads -/

/-- Damage that only a look at the payload of a compact cell finds: a Boolean that is neither, a number that is no
character, and bytes that are no text. -/
inductive ContentDamage : Kind → Damage → Prop
  | bool {number : Nat} (hfalse : number ≠ 0) (htrue : number ≠ 1) :
      ContentDamage .bool (.boolByte (UInt8.ofNat number))
  | char {number : Nat} (hnumber : ¬ number.isValidChar) : ContentDamage .char (.charScalar number)
  | text {bytes : Bytes} {fault : Utf8Fault} (hbytes : Utf8.decode bytes = .error fault) :
      ContentDamage .text (.notText fault)

/-- A payload is refused for its content alone. -/
theorem contentDamage_of_ofPayload {kind : Kind} {payload : Bytes} {damage : Damage}
    (h : ofPayload kind payload = .error damage) : ContentDamage kind damage := by
  cases kind with
  | bool =>
    simp only [ofPayload] at h
    split at h
    · cases h
    next hfalse =>
    split at h
    · cases h
    next htrue =>
      cases h
      exact ContentDamage.bool hfalse htrue
  | char =>
    simp only [ofPayload] at h
    split at h
    · cases h
    next hnumber =>
      cases h
      exact ContentDamage.char hnumber
  | text =>
    simp only [ofPayload] at h
    cases hdecode : Utf8.decode payload with
    | ok text => simp [hdecode, Except.mapError] at h
    | error fault =>
      rw [hdecode] at h
      cases h
      exact ContentDamage.text hdecode
  | signed | unsigned | float | bytes | bigint | decimal | lob => cases h

theorem ContentDamage.isPlain {kind : Kind} {damage : Damage} (h : ContentDamage kind damage) :
    damage.IsPlain := by
  cases h <;> rfl

theorem confined_readPayload (kind : Kind) (length : Nat) :
    Scan.Confined (length + uncounted kind) (readPayload kind length) := by
  apply (Scan.confined_take length kind.name).bind
  intro payload
  unfold uncounted
  split
  · exact (Scan.confined_take 4 _).bind_free fun _ => Confined.pure _
  · exact Confined.pure _

theorem passedBy_skipPayload {OnContent : Damage → Prop} (kind : Kind) (length : Nat) :
    Scan.PassedBy OnContent (readPayload kind length) (skipPayload kind length) := by
  apply Scan.PassedBy.bind (Scan.passedBy_take length kind.name)
  intro payload
  split
  · exact (Scan.passedBy_take 4 _).map _
  · exact fun cursor => Scan.Alongside.arrive

/-! ## Cells -/

/-- Reads the value whose payload has the given length. -/
def readValue (kind : Kind) (length : Nat) : Scan Value := do
  let payload ← readPayload kind length
  return .of kind (← Scan.ofExcept (ofPayload kind payload))

theorem confined_readValue (kind : Kind) (length : Nat) :
    Scan.Confined (length + uncounted kind) (readValue kind length) := by
  apply (confined_readPayload kind length).bind_free
  intro payload
  apply (Scan.confined_ofExcept fun damage h => (contentDamage_of_ofPayload h).isPlain).bind_free
  exact fun content => Confined.pure _

/-- A cell of fixed width may have a byte in front, which says whether the payload is there. -/
theorem read_of_width? {kind : Kind} {width : Nat} (hwidth : kind.width? = some width) (nullable : Bool) :
    read kind nullable =
      readPresence nullable >>= fun isPresent => if isPresent then readValue kind width else pure .null := by
  unfold read readLength
  rw [hwidth]
  simp only [bind_assoc, pure_bind]
  congr 1
  funext isPresent
  cases isPresent <;> rfl

/-- A cell of any other width has a length in front, or the byte that stands for a missing value. -/
theorem read_of_not_width? {kind : Kind} (hwidth : kind.width? = none) (nullable : Bool) :
    read kind nullable =
      LengthPrefix.read >>= fun length =>
        match length with
        | some length => readValue kind length
        | none => if nullable then pure .null else throw (.nullSentinel kind) := by
  unfold read readLength
  rw [hwidth]
  simp only [bind_assoc]
  congr 1
  funext length
  cases length with
  | some length => rfl
  | none => cases nullable <;> rfl

/-- The reader of a cell keeps to the bytes it moves over, as many as the shortest cell has. -/
theorem confined_read (kind : Kind) (nullable : Bool) :
    Scan.Confined (leastSize kind nullable) (read kind nullable) := by
  cases hwidth : kind.width? with
  | some width =>
    rw [read_of_width? hwidth]
    have hvalue := confined_readValue kind width
    rw [uncounted_of_width? hwidth, Nat.add_zero] at hvalue
    cases nullable with
    | false =>
      have hleast : leastSize kind false = width := by simp [leastSize, hwidth]
      rw [hleast]
      exact hvalue
    | true =>
      apply (confined_readPresence true).bind_free
      intro isPresent
      split
      · exact hvalue.weaken (Nat.zero_le _)
      · exact Confined.pure _
  | none =>
    rw [read_of_not_width? hwidth]
    cases nullable with
    | false =>
      have hleast : leastSize kind false = 1 + uncounted kind := by
        simp only [leastSize, uncounted, hwidth, Bool.false_eq_true, if_false]
        split <;> rfl
      rw [hleast]
      apply LengthPrefix.confined_read.bind
      intro length
      cases length with
      | some length => exact (confined_readValue kind length).weaken (Nat.le_add_left _ _)
      | none => exact Confined.throw rfl
    | true =>
      apply LengthPrefix.confined_read.bind_free
      intro length
      cases length with
      | some length => exact (confined_readValue kind length).weaken (Nat.zero_le _)
      | none => exact Confined.pure _

/-- Passing over a cell goes alongside reading it. -/
theorem passedBy_skip (kind : Kind) (nullable : Bool) :
    Scan.PassedBy (ContentDamage kind) (read kind nullable) (skip kind nullable) := by
  apply Scan.PassedBy.behind
  intro length
  cases length with
  | none => exact fun cursor => Scan.Alongside.arrive
  | some length =>
    apply (passedBy_skipPayload kind length).check
    intro payload
    cases hpayload : ofPayload kind payload with
    | ok content => exact Or.inl ⟨.of kind content, rfl⟩
    | error damage => exact Or.inr ⟨damage, contentDamage_of_ofPayload hpayload, rfl⟩

end Compact
end RecordBytes
