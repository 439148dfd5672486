import Mathlib
import RecordBytes.Proofs.Slots.Replayed

/-!
# States of any bytes

States are read of any bytes that are enough for them, also where a slot has the bits that no state has, and
where bits are set behind the last slot.  Writing them again gives the bytes their normal form: the slots in
question are written as dirty, and what is behind the last slot is cleared.  Slots that were made by changes are
written in this form at once, so they come back as they were, word by word.

Main definitions:

- `Slots.pairIn`: the two bits of a slot in written bytes.
- `Slots.normalBytes`: the normal form of written bytes.

Main results:

- `Slots.toBytes_of_states`: states that come from bytes are written as the normal form of the bytes.
- `Slots.Shows.ofBytes_toBytes`: slots come back as they were.
- `Slots.bytes_normalized`: reading any bytes, and writing what was read.
-/

namespace RecordBytes.Slots

/-! ## Slots of written bytes -/

/-- The two bits of a slot of a byte, the first slot lowest. -/
def pairOf (byte : UInt8) (place : Nat) : BitVec 2 :=
  byte.toBitVec.extractLsb' (2 * place) 2

/-- The two bits of a slot in written bytes, four slots to a byte. -/
def pairIn (bytes : Bytes) (ordinal : Nat) : BitVec 2 :=
  pairOf (bytes.getD (ordinal / 4) 0) (ordinal % 4)

/-- The state that two bits stand for; those that no state has stand for a dirty one. -/
def stateOf (pair : BitVec 2) : SlotState :=
  if pair = 0b00#2 then .unassigned
  else if pair = 0b01#2 then .clean
  else .dirty

/-- The two bits of a slot, or those of a dirty one in place of the bits that no state has. -/
def normalPair (pair : BitVec 2) : BitVec 2 :=
  if pair = 0b10#2 then 0b11#2 else pair

/-- What is kept of a slot of a byte whose first `used` slots are in use. -/
def keptPair (used : Nat) (byte : UInt8) (place : Nat) : BitVec 2 :=
  if place < used then normalPair (pairOf byte place) else 0b00#2

/-- The normal form of a byte whose first `used` slots are in use. -/
def normalByte (used : Nat) (byte : UInt8) : UInt8 :=
  ⟨keptPair used byte 3 ++ keptPair used byte 2 ++ keptPair used byte 1 ++ keptPair used byte 0⟩

/-- The normal form of the bytes that `count` slots take, which are the first ones. -/
def normalBytes (bytes : Bytes) (count : Nat) : Bytes :=
  (bytes.take (byteCount count)).mapIdx fun index byte => normalByte (count - 4 * index) byte

@[simp]
theorem length_normalBytes (bytes : Bytes) (count : Nat) :
    (normalBytes bytes count).length = min (byteCount count) bytes.length := by
  simp [normalBytes]

theorem toNat_pairOf (byte : UInt8) (place : Nat) : (pairOf byte place).toNat = byte.toNat / 4 ^ place % 4 := by
  have hpow : 2 ^ (2 * place) = 4 ^ place := Nat.pow_mul 2 2 place
  rw [pairOf, BitVec.extractLsb'_toNat, Nat.shiftRight_eq_div_pow, hpow]
  rfl

theorem ofBits_toNat (pair : BitVec 2) : SlotState.ofBits pair.toNat = stateOf pair := by
  revert pair
  decide

/-- A state is written with the bits that it was read from, unless no state has them. -/
theorem bits_stateOf (pair : BitVec 2) : (stateOf pair).bits = (normalPair pair).toNat := by
  revert pair
  decide

theorem stateIn_eq (bytes : Bytes) (ordinal : Nat) : stateIn bytes ordinal = stateOf (pairIn bytes ordinal) := by
  rw [← ofBits_toNat, pairIn, toNat_pairOf, SlotState.ofBits_mod]
  rfl

/-! ## Writing states that were read -/

/-- Two pairs one above the other, as a number. -/
theorem toNat_append_pair {width : Nat} (high : BitVec width) (low : BitVec 2) :
    (high ++ low).toNat = high.toNat * 4 + low.toNat := by
  rw [BitVec.toNat_append, ← Nat.shiftLeft_add_eq_or_of_lt low.isLt, Nat.shiftLeft_eq]

/-- A byte in normal form spells its four slots to base four, the first slot lowest. -/
theorem toNat_normalByte (used : Nat) (byte : UInt8) :
    (normalByte used byte).toNat = (keptPair used byte 0).toNat + (keptPair used byte 1).toNat * 4 +
      (keptPair used byte 2).toNat * 16 + (keptPair used byte 3).toNat * 64 := by
  have hspelled : (normalByte used byte).toNat =
      (keptPair used byte 3 ++ keptPair used byte 2 ++ keptPair used byte 1 ++ keptPair used byte 0).toNat := rfl
  rw [hspelled, toNat_append_pair, toNat_append_pair, toNat_append_pair]
  ring

variable {slots : Slots} {bytes : Bytes} {count : Nat}

/-- A slot that was read from a byte is written as what is kept of it there. -/
theorem digit_of_states (hstates : ∀ ordinal < count, slots.get ordinal = stateOf (pairIn bytes ordinal))
    (index : Nat) {place : Nat} (hplace : place < 4) :
    slots.digit count (4 * index + place) =
      (keptPair (count - 4 * index) (bytes.getD index 0) place).toNat := by
  have hin : 4 * index + place < count ↔ place < count - 4 * index := by omega
  have hpair : pairIn bytes (4 * index + place) = pairOf (bytes.getD index 0) place := by
    have hindex : (4 * index + place) / 4 = index := by omega
    rw [pairIn, hindex, Nat.mul_add_mod, Nat.mod_eq_of_lt hplace]
  rw [digit, keptPair]
  by_cases hused : place < count - 4 * index
  · rw [if_pos (hin.mpr hused), if_pos hused, hstates _ (hin.mpr hused), hpair, bits_stateOf]
  · rw [if_neg (mt hin.mp hused), if_neg hused]
    rfl

theorem byteAt_of_states (hstates : ∀ ordinal < count, slots.get ordinal = stateOf (pairIn bytes ordinal))
    (index : Nat) : slots.byteAt count index = normalByte (count - 4 * index) (bytes.getD index 0) := by
  apply UInt8.toNat_inj.mp
  have hfirst := digit_of_states hstates index (by decide : 0 < 4)
  rw [Nat.add_zero] at hfirst
  rw [toNat_byteAt, toNat_normalByte, hfirst, digit_of_states hstates _ (by decide),
    digit_of_states hstates _ (by decide), digit_of_states hstates _ (by decide)]

/-- States that come from bytes are written as the normal form of the bytes. -/
theorem toBytes_of_states (hlong : byteCount count ≤ bytes.length)
    (hstates : ∀ ordinal < count, slots.get ordinal = stateOf (pairIn bytes ordinal)) :
    slots.toBytes count = normalBytes bytes count := by
  apply List.ext_getElem
  · rw [length_toBytes, length_normalBytes, min_eq_left hlong]
  · intro index hleft hright
    rw [length_toBytes] at hleft
    have hbyte : bytes.getD index 0 = bytes[index] := by simp [hleft.trans_le hlong]
    simp only [toBytes, normalBytes, List.getElem_map, List.getElem_range, List.getElem_mapIdx, List.getElem_take]
    rw [byteAt_of_states hstates, hbyte]

/-! ## Reading -/

/-- Bytes that are enough for some states are read, each state from its two bits. -/
theorem ofBytes_of_long (hlong : byteCount count ≤ bytes.length) :
    ∃ slots, ofBytes bytes count = .ok slots ∧ slots.size = count ∧
      ∀ ordinal < count, slots.get ordinal = stateOf (pairIn bytes ordinal) := by
  refine ⟨(empty count).replaceFirst count (stateIn bytes), ?_, ?_, ?_⟩
  · rw [ofBytes, if_neg (Nat.not_lt.mpr hlong)]
    rfl
  · rw [size_replaceFirst]
    exact max_self count
  · intro ordinal hordinal
    rw [get_replaceFirst, if_pos hordinal, stateIn_eq]

/-- Slots that show a map are read back as they are from their written form. -/
theorem Shows.ofBytes_toBytes {map : SlotMap} (h : slots.Shows map) :
    ofBytes (slots.toBytes slots.size) slots.size = .ok slots := by
  have hread := slots.ofBytes_toBytes slots.size []
  rw [List.append_nil] at hread
  rcases hread with ⟨states, hstates, hsame⟩
  have hshows := shows_ofBytes hstates
  have hsize : states.size = slots.size := hshows.size_eq
  rw [hstates, (hshows.eq_iff h).mpr ⟨hsize, ?_⟩]
  intro ordinal
  by_cases hordinal : ordinal < slots.size
  · exact hsame ordinal hordinal
  · rw [Slots.get_eq, Slots.get_eq, if_neg hordinal, if_neg (hsize ▸ hordinal)]

/-- Bytes that are enough for some states are read: every state comes from two bits, of which the ones that no
state has make it dirty, and further bytes are not looked at.  Written again, the states take as many bytes, in
normal form.  Bytes that are too few are damage.  Slots that come of any changes are read back from their written
form as the same words. -/
theorem bytes_normalized :
    (∀ (bytes : Bytes) (count : Nat), byteCount count ≤ bytes.length → ∃ slots,
      ofBytes bytes count = .ok slots ∧ slots.size = count ∧
      (∀ ordinal < count, slots.get ordinal = stateOf (pairIn bytes ordinal)) ∧
      (∀ rest, ofBytes (bytes.take (byteCount count) ++ rest) count = .ok slots) ∧
      slots.toBytes slots.size = normalBytes bytes count) ∧
    (∀ (bytes : Bytes) (count : Nat), bytes.length < byteCount count →
      (liftM (ofBytes bytes count) : Except Fault Slots) =
        .error (.corrupt (.stateBytes (byteCount count) bytes.length))) ∧
    ∀ (slots : Slots) (map : SlotMap), slots.Replays map →
      ofBytes (slots.toBytes slots.size) slots.size = .ok slots := by
  refine ⟨?_, ?_, fun slots map hreplays => hreplays.shows.ofBytes_toBytes⟩
  · intro bytes count hlong
    rcases ofBytes_of_long hlong with ⟨slots, hread, hsize, hstates⟩
    refine ⟨slots, hread, hsize, hstates, ?_, ?_⟩
    · intro rest
      have htake : (bytes.take (byteCount count)).length = byteCount count := List.length_take_of_le hlong
      have hbytes := ofBytes_append htake (bytes.drop (byteCount count))
      rw [List.take_append_drop] at hbytes
      rw [ofBytes_append htake, ← hbytes, hread]
    · rw [hsize, toBytes_of_states hlong hstates]
  · intro bytes count hshort
    rw [ofBytes, if_pos hshort]
    rfl

/-- Six slots in two bytes, the third and the fifth of them with the bits that no state has and the last byte with
bits behind the last slot, and twenty-one slots of which only the last was set. -/
theorem bytes_normalized_sixSlots :
    (∃ slots, ofBytes [0b11100100, 0b10110110, 0x55] 6 = .ok slots ∧ slots.get 2 = .dirty ∧
      slots.get 4 = .dirty ∧ slots.toBytes slots.size = [0b11110100, 0b00000111]) ∧
    (liftM (ofBytes [0b11100100] 6) : Except Fault Slots) = .error (.corrupt (.stateBytes 2 1)) ∧
    ofBytes (((Slots.empty 3).set 20 .dirty).toBytes 21) 21 = .ok ((Slots.empty 3).set 20 .dirty) := by
  have hgrown : Replays ((Slots.empty 3).set 20 .dirty) ((SlotMap.empty 3).set 20 .dirty) :=
    ⟨.empty 3, _, [.set 20 .dirty], rfl, rfl, rfl⟩
  rcases bytes_normalized with ⟨hlong, hshort, hback⟩
  rcases hlong [0b11100100, 0b10110110, 0x55] 6 (by decide) with ⟨slots, hread, -, hstates, -, hwritten⟩
  refine ⟨⟨slots, hread, ?_, ?_, ?_⟩, hshort _ _ (by decide), hback _ _ hgrown⟩
  · rw [hstates 2 (by decide)]
    decide
  · rw [hstates 4 (by decide)]
    decide
  · rw [hwritten]
    decide

end RecordBytes.Slots
