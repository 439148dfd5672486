import Mathlib
import RecordBytes.Cursor

/-!
# Scans over a written form

A scan yields a value from a form when it finds the value wherever the form is next, whatever stands behind
it, and stops right behind it.  The bytes count as the scan sees them, under the mask of the cursor, so one
statement covers a form that is written upward and one that is complemented.

Main results:

- `Scan.Yields.bind`: a scan behind a scan yields from one form behind the other.
- `Scan.Yields.complemented`: a complemented stretch is read from the complement of the form.
- `Scan.yields_byte`, `Scan.yields_take`, `Scan.yields_number`: the primitive steps.
-/

namespace RecordBytes

namespace Cursor

/-- The unread bytes as a scan sees them. -/
def shown (cursor : Cursor) : Bytes :=
  cursor.unread.map (· ^^^ cursor.mask)

@[simp]
theorem advance_advance (cursor : Cursor) (first second : Nat) :
    (cursor.advance first).advance second = cursor.advance (first + second) := by
  simp [advance, Nat.add_assoc]

@[simp]
theorem shown_advance (cursor : Cursor) (count : Nat) :
    (cursor.advance count).shown = cursor.shown.drop count := by
  simp [advance, shown]

theorem remaining_eq (cursor : Cursor) : cursor.remaining = cursor.shown.length := by
  simp [remaining, shown]

end Cursor

namespace Scan

variable {α β : Type}

/-- Wherever the form is next, the scan finds the value and stops right behind the form. -/
def Yields (scan : Scan α) (form : Bytes) (found : α) : Prop :=
  ∀ (cursor : Cursor) (rest : Bytes), cursor.shown = form ++ rest →
    scan cursor = .ok found (cursor.advance form.length)

namespace Yields

/-- What needs no bytes is found in front of anything. -/
theorem pure (found : α) : Yields (Pure.pure found) [] found := by
  intro cursor rest _
  rfl

/-- A scan behind a scan yields from one form behind the other. -/
theorem bind {scan : Scan α} {next : α → Scan β} {front back : Bytes} {first : α} {found : β}
    (h : Yields scan front first) (hnext : Yields (next first) back found) :
    Yields (scan >>= next) (front ++ back) found := by
  intro cursor rest hshown
  rw [List.append_assoc] at hshown
  have hback : (cursor.advance front.length).shown = back ++ rest := by simp [hshown]
  have hrun : (scan >>= next) cursor = next first (cursor.advance front.length) := by
    simp [Bind.bind, EStateM.bind, h cursor (back ++ rest) hshown]
  rw [hrun, hnext _ rest hback, Cursor.advance_advance, List.length_append]

/-- A scan whose last step needs no more bytes. -/
theorem bind_pure {scan : Scan α} {next : α → Scan β} {form : Bytes} {first : α} {found : β}
    (h : Yields scan form first) (hnext : next first = Pure.pure found) :
    Yields (scan >>= next) form found := by
  have hlast : Yields (next first) [] found := by
    rw [hnext]
    exact pure found
  have hboth := h.bind hlast
  rwa [List.append_nil] at hboth

/-- A complemented stretch is read from the complement of the form. -/
theorem complemented {scan : Scan α} {form : Bytes} {found : α} (h : Yields scan form found) :
    Yields (Scan.complemented scan) form.complement found := by
  intro cursor rest hshown
  have hmask : ∀ byte : UInt8, byte ^^^ ~~~cursor.mask = ~~~(byte ^^^ cursor.mask) := by
    intro byte
    rw [UInt8.xor_not]
  have hflip : ({ cursor with mask := ~~~cursor.mask } : Cursor).shown = form ++ rest.complement := by
    have hboth : cursor.shown.complement = form ++ rest.complement := by simp [hshown]
    rw [← hboth]
    simp [Cursor.shown, Bytes.complement, hmask]
  simp [Scan.complemented, h _ _ hflip, Cursor.advance]

end Yields

/-! ## Primitive steps -/

/-- One byte. -/
theorem yields_byte (what : String) (found : UInt8) : Yields (byte what) [found] found := by
  intro cursor rest hshown
  rcases List.map_eq_cons_iff.mp hshown with ⟨masked, unread, hunread, hfound, -⟩
  simp [byte, hunread, hfound]

/-- As many bytes as the form has. -/
theorem yields_take {count : Nat} (what : String) {form : Bytes} (h : form.length = count) :
    Yields (take count what) form form := by
  intro cursor rest hshown
  have hremaining : ¬ cursor.remaining < count := by
    rw [Cursor.remaining_eq, hshown, List.length_append]
    omega
  have hfront : (cursor.unread.take count).map (· ^^^ cursor.mask) = form := by
    have htake : cursor.shown.take count = form := by rw [hshown, List.take_left' h]
    rw [← htake, Cursor.shown, List.map_take]
  simp [take, hremaining, hfront, h]

/-- A number, modulo what the width can hold. -/
theorem yields_number_mod (width number : Nat) (what : String) :
    Yields (Scan.number width what) (BigEndian.ofNat width number) (number % 256 ^ width) := by
  apply Yields.bind_pure (yields_take what (BigEndian.length_ofNat width number))
  rw [BigEndian.toNat_ofNat]

/-- A number that the width can hold. -/
theorem yields_number {width number : Nat} (what : String) (h : number < 256 ^ width) :
    Yields (Scan.number width what) (BigEndian.ofNat width number) number := by
  have hmod := yields_number_mod width number what
  rwa [Nat.mod_eq_of_lt h] at hmod

end Scan
end RecordBytes
