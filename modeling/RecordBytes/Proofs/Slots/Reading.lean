import Mathlib
import RecordBytes.Slots

/-!
# Reading the states of properties

A bitmap answers for every property with the state that was last put into its slot.  Slots that are replaced
one after another from the first on leave the others as they are, also where the bitmap has to grow for
them, and the written form of some slots is read back as these slots.

Main results:

- `Slots.extract_replaceSlot`: replacing a slot of a word leaves the other slots of the word.
- `Slots.pairAt_set`: replacing a slot of a bitmap leaves the bits of all others.
- `Slots.get_set_self`, `Slots.get_set_of_ne`: replacing one slot of a bitmap.
- `Slots.get_replaceFirst`, `Slots.size_replaceFirst`: replacing the first slots of a bitmap.
- `Slots.ofBytes_toBytes`: the written form of some slots.
-/

namespace RecordBytes

namespace SlotState

theorem bits_lt (state : SlotState) : state.bits < 4 := by
  cases state <;> decide

@[simp]
theorem ofBits_mod (number : Nat) : ofBits (number % 4) = ofBits number := by
  simp [ofBits]

end SlotState

namespace Slots

/-! ## Slots of a word -/

theorem slotOf_eq (word : BitVec 32) (index : Nat) :
    slotOf word index = .ofBits (word.extractLsb' (2 * index) 2).toNat := by
  unfold slotOf
  rw [BitVec.toNat_ushiftRight, BitVec.extractLsb'_toNat, ← SlotState.ofBits_mod]

/-- A number below four has no bits from the third on. -/
theorem getElem_ofNat_of_lt {number place : Nat} (h : number < 4) (hplace : 2 ≤ place) (hin : place < 32) :
    (BitVec.ofNat 32 number)[place] = false := by
  have hpow : 2 ^ 2 ≤ 2 ^ place := Nat.pow_le_pow_right (by decide) hplace
  rw [← BitVec.getLsbD_eq_getElem, BitVec.getLsbD_ofNat, Nat.testBit_lt_two_pow (by omega), Bool.and_false]

/-- Replacing a slot of a word puts its two bits there and leaves those of the other slots. -/
theorem extract_replaceSlot (index : Nat) {other : Nat} (hother : other < 16) (state : SlotState)
    (word : BitVec 32) :
    (replaceSlot index state word).extractLsb' (2 * other) 2 =
      if other = index then BitVec.ofNat 2 state.bits else word.extractLsb' (2 * other) 2 := by
  have hbits := state.bits_lt
  ext place hplace
  have hin : 2 * other + place < 32 := by omega
  by_cases hsame : other = index
  · subst hsame
    have hplaces : place = 0 ∨ place = 1 := by omega
    rcases hplaces with rfl | rfl <;> cases state <;> simp [replaceSlot, hin, SlotState.bits] <;> omega
  · rw [if_neg hsame]
    by_cases hbelow : 2 * other + place < 2 * index
    · simp [replaceSlot, hin, hbelow]
    · -- The mask and the new bits both stand below this bit.
      have hhigh : 2 ≤ 2 * other + place - 2 * index := by omega
      have hmask := getElem_ofNat_of_lt (by decide : 3 < 4) hhigh (by omega)
      have hstate := getElem_ofNat_of_lt hbits hhigh (by omega)
      simp [replaceSlot, hin, hbelow, hmask, hstate]

/-! ## Slots of a bitmap -/

variable (slots : Slots)

/-- The two bits in the slot of an ordinal, whether or not the bitmap reaches that far. -/
def pairAt (ordinal : Nat) : BitVec 2 :=
  (slots.words.getD (ordinal / 16) 0).extractLsb' (2 * (ordinal % 16)) 2

/-- The state in the slot of an ordinal, whether or not the bitmap reaches that far. -/
def slotAt (ordinal : Nat) : SlotState :=
  slotOf (slots.words.getD (ordinal / 16) 0) (ordinal % 16)

theorem slotAt_eq (ordinal : Nat) : slots.slotAt ordinal = .ofBits (slots.pairAt ordinal).toNat :=
  slotOf_eq _ _

theorem get_eq (ordinal : Nat) :
    slots.get ordinal = if ordinal < slots.size then slots.slotAt ordinal else .unassigned := rfl

theorem div_lt_length_words {ordinal : Nat} (h : ordinal < slots.size) :
    ordinal / 16 < slots.words.length := by
  rw [slots.length_words, wordCount]
  omega

@[simp]
theorem size_grow (size : Nat) : (slots.grow size).size = max slots.size size := by
  unfold grow
  split
  · next h => exact (max_eq_right h.le).symm
  · next h => exact (max_eq_left (le_of_not_gt h)).symm

@[simp]
theorem pairAt_grow (size ordinal : Nat) : (slots.grow size).pairAt ordinal = slots.pairAt ordinal := by
  have hword : (slots.grow size).words.getD (ordinal / 16) 0 = slots.words.getD (ordinal / 16) 0 := by
    unfold grow
    split
    · simp only [List.getD_eq_getElem?_getD, List.getElem?_append, List.getElem?_replicate]
      grind
    · rfl
  rw [pairAt, pairAt, hword]

@[simp]
theorem size_set (ordinal : Nat) (state : SlotState) :
    (slots.set ordinal state).size = max slots.size (ordinal + 1) :=
  slots.size_grow (ordinal + 1)

/-- Replacing a slot leaves the bits of the others, the new ones among them. -/
theorem pairAt_set (ordinal other : Nat) (state : SlotState) :
    (slots.set ordinal state).pairAt other =
      if other = ordinal then BitVec.ofNat 2 state.bits else slots.pairAt other := by
  have hlength : ordinal / 16 < (slots.grow (ordinal + 1)).words.length := by
    apply div_lt_length_words
    simp
  rw [← slots.pairAt_grow (ordinal + 1) other]
  unfold pairAt
  by_cases hword : other / 16 = ordinal / 16
  · have hmodify : (slots.set ordinal state).words.getD (ordinal / 16) 0 =
        replaceSlot (ordinal % 16) state ((slots.grow (ordinal + 1)).words.getD (ordinal / 16) 0) := by
      simp [set, hlength]
    have hslot : other % 16 = ordinal % 16 ↔ other = ordinal := by omega
    rw [hword, hmodify, extract_replaceSlot _ (Nat.mod_lt _ (by decide))]
    simp only [hslot]
  · have hne : other ≠ ordinal := by
      intro heq
      exact hword (congrArg (· / 16) heq)
    have hmodify : (slots.set ordinal state).words.getD (other / 16) 0 =
        (slots.grow (ordinal + 1)).words.getD (other / 16) 0 := by
      simp [set, Ne.symm hword]
    rw [hmodify, if_neg hne]

/-- Replacing a slot leaves the others, the new ones among them. -/
theorem slotAt_set (ordinal other : Nat) (state : SlotState) :
    (slots.set ordinal state).slotAt other = if other = ordinal then state else slots.slotAt other := by
  rw [slotAt_eq, pairAt_set]
  by_cases hsame : other = ordinal
  · rw [if_pos hsame, if_pos hsame, BitVec.toNat_ofNat]
    cases state <;> rfl
  · rw [if_neg hsame, if_neg hsame, slotAt_eq]

/-- A replaced slot holds the new state. -/
@[simp]
theorem get_set_self (ordinal : Nat) (state : SlotState) :
    (slots.set ordinal state).get ordinal = state := by
  simp [get_eq, slotAt_set]

/-- Replacing a slot that is there, or the one behind the last, leaves the others. -/
theorem get_set_of_ne {ordinal other : Nat} (hnext : ordinal ≤ slots.size) (hne : other ≠ ordinal)
    (state : SlotState) : (slots.set ordinal state).get other = slots.get other := by
  rw [get_eq, get_eq, size_set, slotAt_set, if_neg hne]
  have hreach : other < max slots.size (ordinal + 1) ↔ other < slots.size := by omega
  simp only [hreach]

/-! ## The first slots of a bitmap -/

/-- The bitmap with its first slots replaced by given states. -/
def replaceFirst (count : Nat) (states : Nat → SlotState) : Slots :=
  (List.range count).foldl (fun slots ordinal => slots.set ordinal (states ordinal)) slots

theorem replaceFirst_succ (count : Nat) (states : Nat → SlotState) :
    slots.replaceFirst (count + 1) states = (slots.replaceFirst count states).set count (states count) := by
  simp [replaceFirst, List.range_succ]

@[simp]
theorem size_replaceFirst (count : Nat) (states : Nat → SlotState) :
    (slots.replaceFirst count states).size = max slots.size count := by
  induction count with
  | zero => simp [replaceFirst]
  | succ count ih =>
    rw [replaceFirst_succ, size_set, ih]
    omega

/-- The first slots hold the given states, and the others what they held before. -/
theorem get_replaceFirst (count : Nat) (states : Nat → SlotState) (ordinal : Nat) :
    (slots.replaceFirst count states).get ordinal =
      if ordinal < count then states ordinal else slots.get ordinal := by
  induction count with
  | zero => simp [replaceFirst]
  | succ count ih =>
    rw [replaceFirst_succ]
    by_cases hlast : ordinal = count
    · subst hlast
      simp
    · have hnext : count ≤ (slots.replaceFirst count states).size := by simp
      have hbefore : ordinal < count + 1 ↔ ordinal < count := by omega
      rw [get_set_of_ne _ hnext hlast, ih]
      simp only [hbefore]

/-- Slots depend on the states that replace their first ones, and on nothing else. -/
theorem replaceFirst_congr {count : Nat} {states others : Nat → SlotState}
    (h : ∀ ordinal < count, states ordinal = others ordinal) :
    slots.replaceFirst count states = slots.replaceFirst count others := by
  unfold replaceFirst
  apply List.foldl_ext
  intro given ordinal hordinal
  rw [h ordinal (List.mem_range.mp hordinal)]

/-! ## Written form -/

/-- What the slot of an ordinal holds among the first `count` slots, as a digit to base four. -/
def digit (count ordinal : Nat) : Nat :=
  if ordinal < count then (slots.get ordinal).bits else 0

theorem digit_lt (count ordinal : Nat) : slots.digit count ordinal < 4 := by
  unfold digit
  split
  · exact (slots.get ordinal).bits_lt
  · decide

theorem slotBits_eq (count index : Nat) {place : Nat} (h : place < 4) :
    slots.slotBits count (4 * index + place) = slots.digit count (4 * index + place) * 4 ^ place := by
  rw [slotBits, digit, Nat.mul_add_mod, Nat.mod_eq_of_lt h]
  split
  · rfl
  · rw [Nat.zero_mul]

/-- A byte spells its four slots to base four, the first slot lowest. -/
theorem toNat_byteAt (count index : Nat) :
    (slots.byteAt count index).toNat =
      slots.digit count (4 * index) + slots.digit count (4 * index + 1) * 4 +
        slots.digit count (4 * index + 2) * 16 + slots.digit count (4 * index + 3) * 64 := by
  have hzero := slots.digit_lt count (4 * index)
  have hone := slots.digit_lt count (4 * index + 1)
  have htwo := slots.digit_lt count (4 * index + 2)
  have hthree := slots.digit_lt count (4 * index + 3)
  have hfirst := slots.slotBits_eq count index (by decide : 0 < 4)
  rw [Nat.add_zero] at hfirst
  rw [byteAt, UInt8.toNat_ofNat', hfirst, slotBits_eq _ _ _ (by decide), slotBits_eq _ _ _ (by decide),
    slotBits_eq _ _ _ (by decide)]
  omega

/-- The digit at a place of a byte is that of the slot there. -/
theorem byteAt_div (count index : Nat) {place : Nat} (h : place < 4) :
    (slots.byteAt count index).toNat / 4 ^ place % 4 = slots.digit count (4 * index + place) := by
  have hzero := slots.digit_lt count (4 * index)
  have hone := slots.digit_lt count (4 * index + 1)
  have htwo := slots.digit_lt count (4 * index + 2)
  have hthree := slots.digit_lt count (4 * index + 3)
  rw [toNat_byteAt]
  interval_cases place <;> norm_num <;> omega

theorem getD_toBytes {count ordinal : Nat} (h : ordinal < count) (rest : Bytes) :
    (slots.toBytes count ++ rest).getD (ordinal / 4) 0 = slots.byteAt count (ordinal / 4) := by
  have hin : ordinal / 4 < byteCount count := by
    unfold byteCount
    omega
  rw [List.getD_append _ _ _ _ (by rwa [length_toBytes])]
  simp [toBytes, hin]

/-- Written states are read back, whatever is written behind them. -/
theorem stateIn_toBytes {count ordinal : Nat} (h : ordinal < count) (rest : Bytes) :
    stateIn (slots.toBytes count ++ rest) ordinal = slots.get ordinal := by
  have hdigit := slots.byteAt_div count (ordinal / 4) (Nat.mod_lt ordinal (by decide : 0 < 4))
  rw [Nat.div_add_mod, digit, if_pos h] at hdigit
  rw [stateIn, slots.getD_toBytes h, ← SlotState.ofBits_mod, hdigit, SlotState.ofBits_bits]

/-- The first slots are read back from their written form, whatever is written behind it. -/
theorem ofBytes_toBytes (count : Nat) (rest : Bytes) :
    ∃ states, ofBytes (slots.toBytes count ++ rest) count = .ok states ∧
      ∀ ordinal < count, states.get ordinal = slots.get ordinal := by
  refine ⟨(empty count).replaceFirst count (stateIn (slots.toBytes count ++ rest)), ?_, ?_⟩
  · rw [ofBytes, if_neg (by simp)]
    rfl
  · intro ordinal hordinal
    rw [get_replaceFirst, if_pos hordinal, slots.stateIn_toBytes hordinal]

/-- The states come from the bytes that they take, whatever is behind. -/
theorem ofBytes_append {count : Nat} {states : Bytes} (h : states.length = byteCount count)
    (rest : Bytes) : ofBytes (states ++ rest) count = ofBytes states count := by
  have hlong : ¬ (states ++ rest).length < byteCount count := by
    rw [List.length_append]
    omega
  rw [ofBytes, ofBytes, if_neg hlong, if_neg h.not_lt]
  congr 1
  apply List.foldl_ext
  intro slots ordinal hordinal
  have hlt : ordinal / 4 < states.length := by
    have hcount := List.mem_range.mp hordinal
    rw [h, byteCount]
    omega
  rw [stateIn, stateIn, List.getD_append _ _ _ _ hlt]

end Slots
end RecordBytes
