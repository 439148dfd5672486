import Mathlib
import RecordBytes.Compact.Writing
import RecordBytes.Proofs.Compact.LengthPrefix
import RecordBytes.Proofs.Compact.Writable

/-!
# What a first byte tells of a length

The bits of a marker and those of a length share the first byte of a form without overlapping, and the byte alone
tells how many bytes follow it.  So whatever bytes are next, reading a length ends in one of three ways: bytes are
missing, the first byte is reserved, or the bytes that it tells of are taken, and then no length that could be
written in fewer bytes than were read is found in more.

Main definitions:

- `LengthPrefix.marked`: a length with the bits of its marker set.
- `LengthPrefix.formSize`, `LengthPrefix.Reserved`: what a first byte tells.
- `LengthPrefix.Counts`: a first byte of a length.

Main results:

- `LengthPrefix.encode_eq_marked`: the marker of a written length stands above its bits.
- `LengthPrefix.counts_or`: the three kinds of first bytes.
- `LengthPrefix.read_eq_error_iff`: what reading fails with, and when.
- `LengthPrefix.shortest_of_read`: no form is shorter than the written one.
-/

namespace RecordBytes

/-- A marker whose bits are all above those of a number is added to it by setting them. -/
theorem or_marker (marker place high : Nat) {number : Nat} (hmarker : 2 ^ place * high = marker)
    (h : number < 2 ^ place) : number ||| marker = marker + number := by
  rw [← hmarker, Nat.or_comm, Nat.two_pow_add_eq_or_of_lt h]

namespace LengthPrefix

/-! ## Marker bits -/

/-- The form of a length, with the bits of a marker set above those of the length. -/
def marked (length : Nat) : Bytes :=
  if length < 0x80 then BigEndian.ofNat 1 length
  else if length < 0x4000 then BigEndian.ofNat 2 (length ||| 0x8000)
  else if length < 0x20_0000 then BigEndian.ofNat 3 (length ||| 0xC0_0000)
  else if length < 0x1000_0000 then BigEndian.ofNat 4 (length ||| 0xE000_0000)
  else wideMarker :: BigEndian.ofNat 4 length

/-- A length that can be written is written with the bits of its marker set. -/
theorem encode_eq_marked {length : Nat} (h : length < 0x1_0000_0000) : encode length = .ok (marked length) := by
  unfold encode marked
  split
  · rfl
  split
  · rw [or_marker 0x8000 15 1 rfl (by omega : length < 2 ^ 15)]
  split
  · rw [or_marker 0xC0_0000 22 3 rfl (by omega : length < 2 ^ 22)]
  split
  · rw [or_marker 0xE000_0000 29 7 rfl (by omega : length < 2 ^ 29)]
  · rfl

/-- A length that can be written does not begin with the byte that stands for no payload. -/
theorem head_marked_ne {length : Nat} (h : length < 0x1_0000_0000) : (marked length).head? ≠ some nullSentinel := by
  -- A form that did would be read as no length.
  intro hhead
  rcases List.head?_eq_some_iff.mp hhead with ⟨rest, hform⟩
  have hshown : (Cursor.start (marked length) 0).shown = marked length := by simp [Cursor.start, Cursor.shown]
  have hread := yields_read (encode_eq_marked h) _ [] (hshown.trans (List.append_nil _).symm)
  rw [yields_read_null _ rest (hshown.trans hform)] at hread
  cases hread

/-- A length that can be written is put behind what is there. -/
theorem write_of_lt {length : Nat} (h : length < 0x1_0000_0000) (buffer : Bytes) :
    write length buffer = .ok () (buffer ++ marked length) := by
  rw [write, encode_eq_marked h]
  rfl

/-- A length that is too large is not written. -/
theorem encode_of_le {length : Nat} (h : 0x1_0000_0000 ≤ length) : encode length = .error (.lengthTooLarge length) := by
  rw [encode, if_neg (by omega), if_neg (by omega), if_neg (by omega), if_neg (by omega), if_neg (by omega)]

/-- A length that is too large leaves what is there as it is. -/
theorem write_of_le {length : Nat} (h : 0x1_0000_0000 ≤ length) (buffer : Bytes) :
    write length buffer = .error (.lengthTooLarge length) buffer := by
  rw [write, encode_of_le h]
  rfl

/-- A length that is too large is not measured. -/
theorem size_of_le {length : Nat} (h : 0x1_0000_0000 ≤ length) : size length = .error (.lengthTooLarge length) := by
  rw [← length_encode, encode_of_le h]
  rfl

/-! ## First bytes -/

/-- The number of bytes that a length takes by its first byte; a byte that no length begins with stands alone. -/
def formSize (first : UInt8) : Nat :=
  if first.toNat < 0x80 then 1
  else if first.toNat < 0xC0 then 2
  else if first.toNat < 0xE0 then 3
  else if first.toNat < 0xF0 then 4
  else if first = wideMarker then 5
  else 1

/-- First bytes behind the last marker and before the byte that stands for no payload. -/
def Reserved (first : UInt8) : Prop :=
  wideMarker < first ∧ first < nullSentinel

theorem reserved_iff {first : UInt8} : Reserved first ↔ 0xF0 < first.toNat ∧ first.toNat < 0xFF := by
  rw [Reserved, UInt8.lt_iff_toNat_lt, UInt8.lt_iff_toNat_lt]
  rfl

/-- A first byte with the high-order part of a length, which as many bytes complete as the byte tells of.  A length
that is completed so needs no more bytes than these. -/
structure Counts (first : UInt8) (count high : Nat) : Prop where
  size_eq : formSize first = count + 1
  behind_eq : readBehind first = readTail count high
  fits : ∀ low < 256 ^ count, ∃ needed, size (high * 256 ^ count + low) = .ok needed ∧ needed ≤ count + 1

/-- A length in one byte is complete. -/
theorem readTail_zero (high : Nat) : readTail 0 high = pure (some high) := by
  funext cursor
  simp [readTail, Scan.number, Scan.take, BigEndian.toNat, Cursor.advance, Bind.bind, EStateM.bind, Pure.pure,
    EStateM.pure]

/-- A smaller length needs no more bytes. -/
theorem size_mono {length other count : Nat} (hle : length ≤ other) (h : size other = .ok count) :
    ∃ needed, size length = .ok needed ∧ needed ≤ count := by
  unfold size at h ⊢
  split_ifs at h ⊢
  all_goals cases h
  all_goals first | omega | simp

/-- A first byte counts the bytes behind it when the largest length that they complete takes as many. -/
theorem counts_of_largest {first : UInt8} {count high largest : Nat} (hsize : formSize first = count + 1)
    (hbehind : readBehind first = readTail count high) (hlargest : size largest = .ok (count + 1))
    (hle : high * 256 ^ count + 256 ^ count ≤ largest + 1) : Counts first count high := by
  refine ⟨hsize, hbehind, ?_⟩
  intro low hlow
  exact size_mono (by omega) hlargest

/-- A first byte counts the bytes behind it, or stands for no payload, or is reserved. -/
theorem counts_or (first : UInt8) :
    (∃ count high, Counts first count high) ∨ first = nullSentinel ∨ Reserved first := by
  have hfirst := first.toNat_lt
  by_cases hone : first.toNat < 0x80
  · have hlargest : size 0x7F = .ok 1 := rfl
    exact Or.inl ⟨0, first.toNat, counts_of_largest (by simp [formSize, *])
      (by simp [readBehind, readTail_zero, *]) hlargest (by omega)⟩
  by_cases htwo : first.toNat < 0xC0
  · have hlargest : size 0x3FFF = .ok 2 := rfl
    exact Or.inl ⟨1, first.toNat - 0x80, counts_of_largest (by simp [formSize, *]) (by simp [readBehind, *])
      hlargest (by omega)⟩
  by_cases hthree : first.toNat < 0xE0
  · have hlargest : size 0x1F_FFFF = .ok 3 := rfl
    exact Or.inl ⟨2, first.toNat - 0xC0, counts_of_largest (by simp [formSize, *]) (by simp [readBehind, *])
      hlargest (by omega)⟩
  by_cases hfour : first.toNat < 0xF0
  · have hlargest : size 0xFFF_FFFF = .ok 4 := rfl
    exact Or.inl ⟨3, first.toNat - 0xE0, counts_of_largest (by simp [formSize, *]) (by simp [readBehind, *])
      hlargest (by omega)⟩
  by_cases hwide : first = wideMarker
  · subst hwide
    have hlargest : size 0xFFFF_FFFF = .ok 5 := rfl
    exact Or.inl ⟨4, 0, counts_of_largest rfl rfl hlargest (by decide)⟩
  by_cases hnull : first = nullSentinel
  · exact Or.inr (Or.inl hnull)
  · -- What is left lies between the marker of four whole bytes and the last byte.
    have hmarker : first.toNat ≠ 0xF0 := mt (@UInt8.toNat_inj first wideMarker).mp hwide
    have hlast : first.toNat ≠ 0xFF := mt (@UInt8.toNat_inj first nullSentinel).mp hnull
    exact Or.inr (Or.inr (reserved_iff.mpr (by omega)))

/-- A reserved byte stands alone and is damage. -/
theorem Reserved.behind_eq {first : UInt8} (h : Reserved first) :
    formSize first = 1 ∧ readBehind first = throw (.lengthMarker first) := by
  have hnumber := reserved_iff.mp h
  have hwide : first ≠ wideMarker := (UInt8.ne_of_lt h.1).symm
  have hnull : first ≠ nullSentinel := UInt8.ne_of_lt h.2
  have hone : ¬ first.toNat < 0x80 := by omega
  have htwo : ¬ first.toNat < 0xC0 := by omega
  have hthree : ¬ first.toNat < 0xE0 := by omega
  have hfour : ¬ first.toNat < 0xF0 := by omega
  simp [formSize, readBehind, *]

/-! ## Any bytes -/

variable {cursor after : Cursor} {first : UInt8} {rest : Bytes}

/-- Bytes that end before the length that they begin with is complete. -/
def Truncated (bytes : Bytes) : Prop :=
  ∀ first ∈ bytes.head?, bytes.length < formSize first

theorem truncated_nil : Truncated [] := by
  simp [Truncated]

theorem truncated_cons : Truncated (first :: rest) ↔ rest.length + 1 < formSize first := by
  simp [Truncated]

theorem read_of_nil (h : cursor.shown = []) : read cursor = .error (.endOfInput "length") cursor := by
  have hunread : cursor.unread = [] := List.map_eq_nil_iff.mp h
  simp [read_eq, Bind.bind, EStateM.bind, Scan.byte, hunread]

/-- The first byte decides how a length is read behind it. -/
theorem read_of_cons (h : cursor.shown = first :: rest) : read cursor = readBehind first (cursor.advance 1) := by
  have hbyte := Scan.yields_byte "length" first cursor rest h
  rw [List.length_singleton] at hbyte
  simp [read_eq, Bind.bind, EStateM.bind, hbyte]

theorem remaining_of_cons (h : cursor.shown = first :: rest) : (cursor.advance 1).remaining = rest.length := by
  rw [Cursor.remaining_eq, Cursor.shown_advance, h, List.drop_one, List.tail_cons]

/-- Where too few bytes are left behind the first one, the length is not complete. -/
theorem readTail_of_short {count : Nat} (high : Nat) (h : cursor.remaining < count) :
    readTail count high cursor = .error (.endOfInput "length") cursor := by
  simp [readTail, Scan.number, Scan.take, Bind.bind, EStateM.bind, h]

/-- Where enough bytes are left behind the first one, they complete the length. -/
theorem readTail_of_long {count : Nat} (high : Nat) (h : count ≤ cursor.remaining) :
    ∃ low < 256 ^ count, readTail count high cursor = .ok (some (high * 256 ^ count + low)) (cursor.advance count) := by
  have htake : Scan.take count "length" cursor =
      .ok ((cursor.unread.take count).map (· ^^^ cursor.mask)) (cursor.advance count) := by
    simp [Scan.take, Nat.not_lt.mpr h]
  have hlength : ((cursor.unread.take count).map (· ^^^ cursor.mask)).length = count := by
    rw [List.length_map]
    exact List.length_take_of_le h
  refine ⟨BigEndian.toNat ((cursor.unread.take count).map (· ^^^ cursor.mask)), ?_, ?_⟩
  · have hlt := BigEndian.toNat_lt ((cursor.unread.take count).map (· ^^^ cursor.mask))
    rwa [hlength] at hlt
  · simp [readTail, Scan.number, Bind.bind, EStateM.bind, htake, pure, EStateM.pure]

/-- The ways in which reading a length ends. -/
inductive Ends (cursor : Cursor) : EStateM.Result Damage Cursor (Option Nat) → Prop
  | truncated (after : Cursor) (h : Truncated cursor.shown) : Ends cursor (.error (.endOfInput "length") after)
  | reserved {first : UInt8} (hwhole : ¬ Truncated cursor.shown) (hhead : cursor.shown.head? = some first)
      (h : Reserved first) : Ends cursor (.error (.lengthMarker first) (cursor.advance 1))
  | null (hwhole : ¬ Truncated cursor.shown) (hhead : cursor.shown.head? = some nullSentinel) :
      Ends cursor (.ok none (cursor.advance 1))
  /-- A length is found behind as many bytes as it takes when written, or more. -/
  | found {length needed count : Nat} (hwhole : ¬ Truncated cursor.shown) (hcount : count ≤ cursor.remaining)
      (hsize : size length = .ok needed) (hle : needed ≤ count) : Ends cursor (.ok (some length) (cursor.advance count))

/-- Behind a first byte that counts bytes, they are missing or complete the length. -/
theorem Counts.ends_read {count high : Nat} (hcounts : Counts first count high) (h : cursor.shown = first :: rest) :
    Ends cursor (read cursor) := by
  have hremaining := remaining_of_cons h
  rw [read_of_cons h, hcounts.behind_eq]
  by_cases hshort : rest.length < count
  · rw [readTail_of_short high (hremaining ▸ hshort)]
    refine Ends.truncated _ ?_
    rw [h, truncated_cons, hcounts.size_eq]
    exact Nat.succ_lt_succ hshort
  · rcases readTail_of_long high (hremaining ▸ Nat.le_of_not_lt hshort) with ⟨low, hlow, htail⟩
    rcases hcounts.fits low hlow with ⟨needed, hneeded, hle⟩
    rw [htail, Cursor.advance_advance, Nat.add_comm 1 count]
    refine Ends.found ?_ ?_ hneeded hle
    · rw [h, truncated_cons, hcounts.size_eq]
      omega
    · rw [Cursor.remaining_eq, h, List.length_cons]
      omega

/-- Whatever bytes are next, reading a length ends in one of these ways. -/
theorem ends_read (cursor : Cursor) : Ends cursor (read cursor) := by
  cases hshown : cursor.shown with
  | nil =>
    rw [read_of_nil hshown]
    exact Ends.truncated cursor (by rw [hshown]; exact truncated_nil)
  | cons first rest =>
    have hhead : cursor.shown.head? = some first := by rw [hshown, List.head?_cons]
    have hwhole : formSize first = 1 → ¬ Truncated cursor.shown := by
      intro hone
      rw [hshown, truncated_cons, hone]
      omega
    rcases counts_or first with ⟨count, high, hcounts⟩ | rfl | hreserved
    · exact hcounts.ends_read hshown
    · have hread := yields_read_null cursor rest hshown
      rw [hread]
      exact Ends.null (hwhole rfl) hhead
    · rw [read_of_cons hshown, hreserved.behind_eq.2]
      exact Ends.reserved (hwhole hreserved.behind_eq.1) hhead hreserved

/-- Reading a length fails exactly when its bytes are not all there or its first byte is reserved. -/
theorem read_eq_error_iff {damage : Damage} :
    (∃ after, read cursor = .error damage after) ↔
      (damage = .endOfInput "length" ∧ Truncated cursor.shown) ∨
      ∃ first, damage = .lengthMarker first ∧ cursor.shown.head? = some first ∧ Reserved first := by
  constructor
  · rintro ⟨after, hrun⟩
    have hends := ends_read cursor
    rw [hrun] at hends
    cases hends with
    | truncated _ h => exact Or.inl ⟨rfl, h⟩
    | reserved _ hhead h => exact Or.inr ⟨_, rfl, hhead, h⟩
  · rintro (⟨rfl, htruncated⟩ | ⟨first, rfl, hhead, hreserved⟩)
    · have hends := ends_read cursor
      cases hrun : read cursor with
      | error damage after =>
        rw [hrun] at hends
        cases hends with
        | truncated _ _ => exact ⟨after, rfl⟩
        | reserved hwhole _ _ => exact absurd htruncated hwhole
      | ok found after =>
        rw [hrun] at hends
        cases hends with
        | null hwhole _ => exact absurd htruncated hwhole
        | found hwhole _ _ _ => exact absurd htruncated hwhole
    · rcases List.head?_eq_some_iff.mp hhead with ⟨rest, hshown⟩
      exact ⟨_, by rw [read_of_cons hshown, hreserved.behind_eq.2]; rfl⟩

/-- Nothing is found in place of a length but behind the byte that stands for no payload. -/
theorem head_of_read_none (h : read cursor = .ok none after) : cursor.shown.head? = some nullSentinel := by
  have hends := ends_read cursor
  rw [h] at hends
  cases hends with
  | null _ hhead => exact hhead

/-- No form of a length is shorter than the written one. -/
theorem shortest_of_read {length : Nat} (h : read cursor = .ok (some length) after) :
    ∃ count needed, after = cursor.advance count ∧ count ≤ cursor.remaining ∧ size length = .ok needed ∧
      needed ≤ count := by
  have hends := ends_read cursor
  rw [h] at hends
  cases hends with
  | found _ hcount hsize hle => exact ⟨_, _, rfl, hcount, hsize, hle⟩

end LengthPrefix
end RecordBytes
