import Mathlib
import RecordBytes.Proofs.Cursor.Behind
import RecordBytes.Proofs.Cursor.Passing
import RecordBytes.Sortable.Cell

/-!
# Scanning sortable cells

Whatever bytes are next, the reader of a sortable cell keeps to those it moves over, which are never fewer than
the least length of the cell.  Passing over a cell goes alongside reading it and leaves out only the checks of
the content: whether a Boolean or a character is one, whether text is text, and whether an integer has the sign
that its header tells.

Main results:

- `Sortable.confined_read`: the reader keeps to the cell.
- `Sortable.passedBy_skip`: passing over goes alongside reading.
-/

namespace RecordBytes

/-! ## Escaped byte strings -/

namespace Escaped

theorem prepend_eq_ok {byte : UInt8} {result : EStateM.Result Damage Cursor Bytes} {content : Bytes}
    {after : Cursor} :
    prepend byte result = .ok content after ↔ ∃ rest, result = .ok rest after ∧ byte :: rest = content := by
  cases result with
  | ok rest cursor =>
    simp [prepend]
    tauto
  | error damage cursor => simp [prepend]

theorem prepend_eq_error {byte : UInt8} {result : EStateM.Result Damage Cursor Bytes} {damage : Damage}
    {after : Cursor} : prepend byte result = .error damage after ↔ result = .error damage after := by
  cases result <;> simp [prepend]

/-- The content ends at its terminator, whatever bytes are behind.  The terminator takes two bytes, one of which
may have been read. -/
theorem moves_readFrom {mask : UInt8} {position : Nat} {afterZero : Bool} {unread content : Bytes}
    {after : Cursor} (h : readFrom mask position afterZero unread = .ok content after) :
    ∃ moved, unread = moved ++ after.unread ∧ (if afterZero then 1 else 2) ≤ moved.length ∧
      ∀ behind, readFrom mask position afterZero (moved ++ behind) = .ok content (after.facing behind) := by
  induction unread generalizing position afterZero content with
  | nil => cases h
  | cons masked rest ih =>
    simp only [readFrom] at h
    split at h
    · next hzero =>
      split at h
      · next hend =>
        cases h
        refine ⟨[masked], rfl, by simp [hzero], ?_⟩
        intro behind
        simp [readFrom, hzero, hend, Cursor.facing]
      · split at h
        · next hescaped =>
          rcases prepend_eq_ok.mp h with ⟨others, hothers, rfl⟩
          rcases ih hothers with ⟨moved, rfl, hleast, hagain⟩
          refine ⟨masked :: moved, rfl, ?_, ?_⟩
          · rw [if_neg Bool.false_ne_true] at hleast
            rw [if_pos hzero, List.length_cons]
            omega
          · intro behind
            simp [readFrom, hzero, hescaped, hagain, prepend]
        · cases h
    · next hzero =>
      split at h
      · next hfirst =>
        rcases ih h with ⟨moved, rfl, hleast, hagain⟩
        refine ⟨masked :: moved, rfl, ?_, ?_⟩
        · rw [if_pos rfl] at hleast
          rw [if_neg hzero, List.length_cons]
          omega
        · intro behind
          simp [readFrom, hzero, hfirst, hagain]
      · next hfirst =>
        rcases prepend_eq_ok.mp h with ⟨others, hothers, rfl⟩
        rcases ih hothers with ⟨moved, rfl, hleast, hagain⟩
        refine ⟨masked :: moved, rfl, ?_, ?_⟩
        · rw [if_neg Bool.false_ne_true] at hleast
          rw [if_neg hzero, List.length_cons]
          omega
        · intro behind
          simp [readFrom, hzero, hfirst, hagain, prepend]

theorem plain_of_readFrom {mask : UInt8} {position : Nat} {afterZero : Bool} {unread : Bytes}
    {damage : Damage} {after : Cursor} (h : readFrom mask position afterZero unread = .error damage after) :
    damage.IsPlain := by
  induction unread generalizing position afterZero with
  | nil =>
    cases h
    rfl
  | cons masked rest ih =>
    simp only [readFrom] at h
    split at h
    · split at h
      · cases h
      · split at h
        · exact ih (prepend_eq_error.mp h)
        · cases h
          rfl
    · split at h
      · exact ih h
      · exact ih (prepend_eq_error.mp h)

theorem confined_read : Scan.Confined 2 read where
  moves := by
    intro cursor after content h
    exact moves_readFrom h
  blames := by
    intro cursor after damage h
    exact plain_of_readFrom h

end Escaped

/-! ## Integers of any size -/

namespace Bigint

theorem confined_readHeader : Scan.Confined 4 readHeader :=
  (Scan.confined_number 4 _).bind_free fun _ => Confined.pure _

theorem confined_read : Scan.Confined 4 read := by
  apply confined_readHeader.bind_free
  rintro ⟨negative, size⟩
  have hsign : Scan.Confined 0 (throw Damage.bigintSign : Scan Unit) := Confined.throw rfl
  apply ((Scan.confined_take size _).bind_free ?_).weaken (Nat.zero_le _)
  intro form
  dsimp only
  split
  · exact hsign.bind_free fun _ => Confined.pure _
  · exact Confined.pure _

end Bigint

/-! ## Decimals -/

namespace SortableDecimal

theorem prepend_eq_ok {digit : Nat} {result : EStateM.Result Damage Cursor (List Nat)} {digits : List Nat}
    {after : Cursor} :
    prepend digit result = .ok digits after ↔ ∃ rest, result = .ok rest after ∧ digit :: rest = digits := by
  cases result with
  | ok rest cursor =>
    simp [prepend]
    tauto
  | error damage cursor => simp [prepend]

theorem prepend_eq_error {digit : Nat} {result : EStateM.Result Damage Cursor (List Nat)} {damage : Damage}
    {after : Cursor} : prepend digit result = .error damage after ↔ result = .error damage after := by
  cases result <;> simp [prepend]

/-- The digits end at their terminator, whatever bytes are behind. -/
theorem moves_digitsFrom {mask : UInt8} {position : Nat} {unread : Bytes} {digits : List Nat}
    {after : Cursor} (h : digitsFrom mask position unread = .ok digits after) :
    ∃ moved, unread = moved ++ after.unread ∧ 1 ≤ moved.length ∧
      ∀ behind, digitsFrom mask position (moved ++ behind) = .ok digits (after.facing behind) := by
  induction unread generalizing position digits with
  | nil => cases h
  | cons masked rest ih =>
    simp only [digitsFrom] at h
    split at h
    · next hend =>
      cases h
      refine ⟨[masked], rfl, Nat.le_refl _, ?_⟩
      intro behind
      simp [digitsFrom, hend, Cursor.facing]
    · next hend =>
      split at h
      · next hdigit =>
        rcases prepend_eq_ok.mp h with ⟨others, hothers, rfl⟩
        rcases ih hothers with ⟨moved, rfl, hleast, hagain⟩
        refine ⟨masked :: moved, rfl, Nat.le_add_left _ _, ?_⟩
        intro behind
        simp [digitsFrom, hend, hdigit, hagain, prepend]
      · cases h

theorem plain_of_digitsFrom {mask : UInt8} {position : Nat} {unread : Bytes} {damage : Damage}
    {after : Cursor} (h : digitsFrom mask position unread = .error damage after) : damage.IsPlain := by
  induction unread generalizing position with
  | nil =>
    cases h
    rfl
  | cons masked rest ih =>
    simp only [digitsFrom] at h
    split at h
    · cases h
    · split at h
      · exact ih (prepend_eq_error.mp h)
      · cases h
        rfl

theorem confined_readDigits : Scan.Confined 1 readDigits where
  moves := by
    intro cursor after digits h
    exact moves_digitsFrom h
  blames := by
    intro cursor after damage h
    exact plain_of_digitsFrom h

theorem confined_readMagnitude : Scan.Confined 9 readMagnitude :=
  (Scan.confined_number 8 _).bind fun _ => confined_readDigits.bind_free fun _ => Confined.pure _

theorem plain_of_assemble {negative : Bool} {exponent : Int64} {digits : List Nat} {damage : Damage}
    (h : assemble negative exponent digits = .error damage) : damage.IsPlain := by
  unfold assemble at h
  split at h
  · cases h
    rfl
  · split at h
    · cases h
      rfl
    · cases h

theorem confined_read : Scan.Confined 1 read := by
  apply (Scan.confined_byte _).bind_free
  intro marker
  split
  · exact Confined.pure _
  split
  · apply (confined_readMagnitude.bind_free ?_).weaken (Nat.zero_le _)
    rintro ⟨exponent, digits⟩
    exact Scan.confined_ofExcept fun damage h => plain_of_assemble h
  split
  · apply (confined_readMagnitude.complemented.bind_free ?_).weaken (Nat.zero_le _)
    rintro ⟨exponent, digits⟩
    exact Scan.confined_ofExcept fun damage h => plain_of_assemble h
  · exact Confined.throw rfl

end SortableDecimal

/-! ## Cells -/

namespace Sortable

theorem plain_of_notText {outcome : Except Utf8Fault String} {damage : Damage}
    (h : outcome.mapError Damage.notText = .error damage) : damage.IsPlain := by
  cases outcome with
  | ok text => cases h
  | error fault =>
    cases h
    rfl

/-- The reader of a content keeps to the bytes it moves over, as many as the shortest cell has. -/
theorem confined_readContent (kind : Kind) : Scan.Confined (leastSize kind false) (readContent kind) := by
  cases kind with
  | bool =>
    apply (Scan.confined_byte _).bind_free
    intro byte
    split
    · exact Confined.pure _
    split
    · exact Confined.pure _
    · exact Confined.throw rfl
  | char =>
    apply (Scan.confined_number 4 _).bind_free
    intro number
    split
    · exact Confined.pure _
    · exact Confined.throw rfl
  | signed width => exact (Scan.confined_number width.bytes _).bind_free fun _ => Confined.pure _
  | unsigned width => exact (Scan.confined_number width.bytes _).bind_free fun _ => Confined.pure _
  | float precision => exact (Scan.confined_number precision.bytes _).bind_free fun _ => Confined.pure _
  | text => exact Escaped.confined_read.bind_free fun _ => Scan.confined_ofExcept fun _ h => plain_of_notText h
  | bytes => exact Escaped.confined_read
  | bigint => exact Bigint.confined_read
  | decimal => exact SortableDecimal.confined_read
  | lob => exact (Scan.confined_number 8 _).bind_free fun _ => Confined.pure _

theorem confined_readMarker : Scan.Confined 1 readMarker := by
  apply (Scan.confined_byte _).bind_free
  intro marker
  split
  · exact Confined.pure _
  split
  · exact Confined.pure _
  · exact Confined.throw rfl

/-- The reader of a cell keeps to the bytes it moves over, as many as the shortest cell has. -/
theorem confined_read (kind : Kind) (nullable : Bool) :
    Scan.Confined (leastSize kind nullable) (read kind nullable) := by
  have hcontent := (confined_readContent kind).bind_free
    fun content => (Confined.pure (Value.of kind content) : Scan.Confined 0 _)
  cases nullable with
  | false => exact hcontent
  | true =>
    apply confined_readMarker.bind_free
    intro isPresent
    split
    · exact hcontent.weaken (Nat.zero_le _)
    · exact Confined.pure _

/-- Damage that only a look at the content of a sortable cell finds: a Boolean that is neither, a number that is
no character, bytes that are no text, and an integer whose sign is not the one its header tells. -/
inductive ContentDamage : Kind → Damage → Prop
  | bool {byte : UInt8} (hfalse : byte ≠ 0) (htrue : byte ≠ 1) : ContentDamage .bool (.boolByte byte)
  | char {number : Nat} (hnumber : ¬ number.isValidChar) : ContentDamage .char (.charScalar number)
  | text {bytes : Bytes} {fault : Utf8Fault} (hbytes : Utf8.decode bytes = .error fault) :
      ContentDamage .text (.notText fault)
  | bigint : ContentDamage .bigint .bigintSign

theorem Escaped.passedBy_skip {OnContent : Damage → Prop} : Scan.PassedBy OnContent Escaped.read Escaped.skip := by
  intro cursor
  rw [Escaped.skip_eq]
  cases Escaped.read cursor with
  | ok content after => exact Scan.Alongside.arrive
  | error damage after => exact Scan.Alongside.fail

/-- Passing over a content goes alongside reading it. -/
theorem passedBy_skipContent (kind : Kind) :
    Scan.PassedBy (ContentDamage kind) (readContent kind) (skipContent kind) := by
  cases kind with
  | bool =>
    apply (Scan.passedBy_byte Kind.bool.name).check
    intro byte
    split
    · exact Or.inl ⟨_, rfl⟩
    next hfalse =>
    split
    · exact Or.inl ⟨_, rfl⟩
    next htrue => exact Or.inr ⟨_, ContentDamage.bool hfalse htrue, rfl⟩
  | char =>
    apply (Scan.passedBy_number 4 Kind.char.name).check
    intro number
    split
    · exact Or.inl ⟨_, rfl⟩
    next hnumber => exact Or.inr ⟨_, ContentDamage.char hnumber, rfl⟩
  | signed width => exact (Scan.passedBy_number width.bytes _).map _
  | unsigned width => exact (Scan.passedBy_number width.bytes _).map _
  | float precision => exact (Scan.passedBy_number precision.bytes _).map _
  | text =>
    apply Escaped.passedBy_skip.check
    intro bytes
    cases hbytes : Utf8.decode bytes with
    | ok text => exact Or.inl ⟨text, rfl⟩
    | error fault => exact Or.inr ⟨_, ContentDamage.text hbytes, rfl⟩
  | bytes => exact Escaped.passedBy_skip
  | bigint =>
    apply Scan.PassedBy.behind
    rintro ⟨negative, size⟩
    apply (Scan.passedBy_take size _).check
    intro form
    dsimp only
    split
    · exact Or.inr ⟨_, ContentDamage.bigint, rfl⟩
    · exact Or.inl ⟨_, rfl⟩
  | decimal => exact Scan.PassedBy.discard SortableDecimal.read
  | lob => exact (Scan.passedBy_number 8 _).map _

/-- Passing over a cell goes alongside reading it. -/
theorem passedBy_skip (kind : Kind) (nullable : Bool) :
    Scan.PassedBy (ContentDamage kind) (read kind nullable) (skip kind nullable) := by
  apply Scan.PassedBy.behind
  intro isPresent
  cases isPresent with
  | true => exact (passedBy_skipContent kind).map (Value.of kind)
  | false => exact fun cursor => Scan.Alongside.arrive

end Sortable
end RecordBytes
