import Mathlib
import RecordBytes.Proofs.Bytes.Successor
import RecordBytes.Proofs.Format.Rows
import RecordBytes.Proofs.Key.Prefix

/-!
# The bounds of a scan

The keys that share the leading values of a row begin with the part of the row's key that covers those
values, and no other keys do.  The stretch of byte strings between the bounds of a scan therefore holds
exactly these keys.

Main results:

- `RecordFormat.scanBounds_eq_ok`: what the bounds of a scan are.
- `RecordFormat.scanBounds_exact`: the keys between the bounds of a scan.
-/

namespace RecordBytes.RecordFormat

open Outcome

variable {format : RecordFormat}

/-- The bounds of a scan: the leading part of the row's key, or the padding where no values lead, and what
follows the keys that begin with it; behind a whole key comes the string with a zero byte more. -/
theorem scanBounds_eq_ok {row : Row} {leading : Nat} {start : Bytes} {stop : Option Bytes} :
    format.scanBounds row leading = .ok (start, stop) ↔
      row.length = format.schema.size ∧ leading ≤ format.key.fields.length ∧
        if leading = 0 then
          List.replicate format.padding.key.before 0 = start ∧ Bytes.successor? start = stop
        else format.encodeKey row (.upTo leading) = .ok start ∧
          (if leading = format.key.fields.length then some (start ++ [0])
            else Bytes.successor? start) = stop := by
  unfold scanBounds
  simp only [bind_eq_ok, lift_refusal_eq_ok, checkRow_eq_ok, guard_eq_ok, exists_const, Nat.not_lt]
  refine and_congr_right fun _ => and_congr_right fun _ => ?_
  by_cases hzero : leading = 0
  · rw [if_pos hzero, if_pos hzero, pure_eq_ok, Prod.mk.injEq]
    refine and_congr_right ?_
    intro heq
    subst heq
    rfl
  · rw [if_neg hzero, if_neg hzero]
    simp only [bind_eq_ok, pure_eq_ok, Prod.mk.injEq]
    constructor
    · intro h
      rcases h with ⟨found, hfound, rfl, hstop⟩
      exact ⟨hfound, hstop⟩
    · intro h
      rcases h with ⟨hstart, hstop⟩
      exact ⟨start, hstart, rfl, hstop⟩

/-- What the key field at an index stores for the values of two rows compares as equal. -/
def SameStored (format : RecordFormat) (left right : Row) (index : Nat) : Prop :=
  ∃ field ordinal low high lowStored highStored,
    format.key.fields[index]? = some field ∧ format.schema.key[index]? = some ordinal ∧
      left[ordinal]? = some low ∧ right[ordinal]? = some high ∧
        field.stored low = .ok lowStored ∧ field.stored high = .ok highStored ∧
          Value.compare field.kind lowStored highStored = .eq

/-- Rows are stored as equal at an index of the key when their selected values are. -/
theorem same_iff_sameStored {left right : Row} {leftValues rightValues : List Value}
    (hleft : Row.select? left format.schema.key = some leftValues)
    (hright : Row.select? right format.schema.key = some rightValues) (index : Nat) :
    Cells.Same format.key.fields leftValues rightValues index ↔ format.SameStored left right index := by
  unfold Cells.Same SameStored
  rw [Row.getElem?_select? hleft, Row.getElem?_select? hright]
  cases format.schema.key[index]? with
  | none => simp
  | some ordinal => simp

/-- The keys between the bounds of a scan are those whose leading values are stored as equal to those of
the row. -/
theorem between_scanBounds {typeName : String} {schema : Schema} {padding : RecordPadding}
    (hbuild : build typeName schema padding = .ok format) {row other : Row} {leading : Nat}
    {start key : Bytes} {stop : Option Bytes}
    (hbounds : format.scanBounds row leading = .ok (start, stop))
    (hkey : format.encodeKey other .all = .ok key) :
    Bytes.Between start stop key ↔ ∀ index < leading, format.SameStored row other index := by
  rcases scanBounds_eq_ok.mp hbounds with ⟨-, hleading, hbounds⟩
  rcases encodeKey_eq_ok.mp hkey with ⟨hotherLength, otherValues, hother, hkey⟩
  have hcount : format.key.fields.length = format.schema.key.length := by
    apply length_key_of_build hbuild
    rw [← hotherLength]
    exact Row.select?_isSome_iff.mp ⟨otherValues, hother⟩
  have hotherCount := (Row.length_select? hother).trans hcount.symm
  by_cases hzero : leading = 0
  · -- No values lead: every key begins with the padding.
    rw [if_pos hzero] at hbounds
    rcases hbounds with ⟨rfl, rfl⟩
    subst hzero
    rw [Bytes.between_successor, ← padding_of_build hbuild]
    simp [KeyLayout.prefix_of_encode hotherCount hkey]
  · rw [if_neg hzero] at hbounds
    rcases hbounds with ⟨hstart, rfl⟩
    rcases encodeKey_eq_ok.mp hstart with ⟨-, values, hvalues, hstart⟩
    have hvaluesCount := (Row.length_select? hvalues).trans hcount.symm
    simp only [← same_iff_sameStored hvalues hother]
    by_cases hall : leading = format.key.fields.length
    · -- All values lead: the bounds enclose one key.
      rw [if_pos hall, Bytes.between_single]
      subst hall
      have hwhole : format.key.encode values .all = .ok start := by
        rw [KeyLayout.encode_of_resolve (KeyLayout.resolve_upTo (Nat.pos_of_ne_zero hzero) hleading)]
          at hstart
        rw [KeyLayout.encode_of_resolve (KeyLayout.resolve_all _)]
        exact hstart
      exact KeyLayout.eq_iff_same hvaluesCount hotherCount hwhole hkey
    · rw [if_neg hall, Bytes.between_successor]
      exact KeyLayout.prefix_iff_same (Nat.pos_of_ne_zero hzero) (lt_of_le_of_ne hleading hall)
        hvaluesCount hotherCount hstart hkey

/-- Rows with the same values at the leading key ordinals have the same bounds. -/
theorem scanBounds_congr {row other : Row} {leading : Nat} {start : Bytes} {stop : Option Bytes}
    (hbounds : format.scanBounds row leading = .ok (start, stop)) (hlength : other.length = row.length)
    (hsame : ∀ ordinal ∈ format.schema.key.take leading, other[ordinal]? = row[ordinal]?) :
    format.scanBounds other leading = .ok (start, stop) := by
  rw [scanBounds_eq_ok] at hbounds ⊢
  rcases hbounds with ⟨hrow, hleading, hbounds⟩
  refine ⟨hlength.trans hrow, hleading, ?_⟩
  by_cases hzero : leading = 0
  · rwa [if_pos hzero] at hbounds ⊢
  · rw [if_neg hzero] at hbounds ⊢
    rcases hbounds with ⟨hstart, hstop⟩
    refine ⟨?_, hstop⟩
    rcases encodeKey_eq_ok.mp hstart with ⟨-, values, hvalues, hencode⟩
    have hordinals : ∀ ordinal ∈ format.schema.key, ordinal < other.length := by
      rw [hlength]
      exact Row.select?_isSome_iff.mp ⟨values, hvalues⟩
    rcases Row.select?_isSome_iff.mpr hordinals with ⟨otherValues, hother⟩
    have htake : values.take leading = otherValues.take leading := by
      ext index : 1
      rw [List.getElem?_take, List.getElem?_take, Row.getElem?_select? hvalues,
        Row.getElem?_select? hother]
      by_cases hindex : index < leading
      · rw [if_pos hindex, if_pos hindex]
        cases hordinal : format.schema.key[index]? with
        | none => rfl
        | some ordinal =>
          have hmem : ordinal ∈ format.schema.key.take leading := by
            rw [List.mem_iff_getElem?]
            exact ⟨index, by simp [hindex, hordinal]⟩
          exact (hsame ordinal hmem).symm
      · rw [if_neg hindex, if_neg hindex]
    have hresolve := KeyLayout.resolve_upTo (Nat.pos_of_ne_zero hzero) hleading
    rw [KeyLayout.encode_of_resolve hresolve] at hencode
    have hcount : values.length = otherValues.length :=
      (Row.length_select? hvalues).trans (Row.length_select? hother).symm
    have hpart := (KeyLayout.encodeSpan_congr hcount (by simpa using htake)).symm.trans hencode
    exact encodeKey_eq_ok.mpr ⟨hlength.trans hrow, otherValues, hother,
      (KeyLayout.encode_of_resolve hresolve _).trans hpart⟩

/-- A key lies between the bounds of a scan exactly when its leading values are stored as equal to those of
the row, and the bounds depend on nothing but the leading values of the row. -/
theorem scanBounds_exact {typeName : String} {schema : Schema} {padding : RecordPadding}
    (hbuild : build typeName schema padding = .ok format) {row : Row} {leading : Nat} {start : Bytes}
    {stop : Option Bytes} (hbounds : format.scanBounds row leading = .ok (start, stop)) :
    (∀ (other : Row) (key : Bytes), format.encodeKey other .all = .ok key →
      (Bytes.Between start stop key ↔ ∀ index < leading, format.SameStored row other index)) ∧
    ∀ other : Row, other.length = row.length →
      (∀ ordinal ∈ format.schema.key.take leading, other[ordinal]? = row[ordinal]?) →
        format.scanBounds other leading = .ok (start, stop) := by
  constructor
  · intro other key hkey
    exact between_scanBounds hbuild hbounds hkey
  · intro other hlength hsame
    exact scanBounds_congr hbounds hlength hsame

/-- A record whose key is a tag and a level. -/
def tagged : RecordFormat where
  typeName := "Tagged"
  schema := ⟨KeyLayout.tagAndLevel.fields.map Field.property, [0, 1], []⟩
  padding := ⟨⟨1, 1⟩, ⟨0, 0⟩⟩
  key := KeyLayout.tagAndLevel
  data := ⟨[], ⟨0, 0⟩⟩
  snapshot := ⟨KeyLayout.tagAndLevel.fields⟩

/-- A record whose key is a mark and a level. -/
def markedRecord : RecordFormat where
  typeName := "Marked"
  schema := ⟨KeyLayout.markAndLevel.fields.map Field.property, [0, 1], []⟩
  padding := ⟨⟨0, 1⟩, ⟨0, 0⟩⟩
  key := KeyLayout.markAndLevel
  data := ⟨[], ⟨0, 0⟩⟩
  snapshot := ⟨KeyLayout.markAndLevel.fields⟩

/-- A scan over the records of one tag finds a record of that tag at another level, and one over the records with a
mark does not find a record without. -/
theorem scanBounds_tagged :
    ((Bytes.Between [0, 0xFE, 0xF8, 0xFF, 0xFF] (some [0, 0xFE, 0xF9])
        [0, 0xFE, 0xF8, 0xFF, 0xFF, 0x80, 0x09, 0] ↔
      ∀ index < 1, tagged.SameStored [.of .bytes [7], .of (.signed .w16) 5]
        [.of .bytes [7], .of (.signed .w16) 9] index) ∧
      tagged.scanBounds [.of .bytes [7], .null] 1 =
        .ok ([0, 0xFE, 0xF8, 0xFF, 0xFF], some [0, 0xFE, 0xF9])) ∧
    ((Bytes.Between [0xFE, 0xFF, 0xFF, 0xFF, 0x86] (some [0xFE, 0xFF, 0xFF, 0xFF, 0x87])
        [0xFE, 0xFF, 0xFF, 0xFF, 0x91, 0x80, 0x05, 0] ↔
      ∀ index < 1, markedRecord.SameStored [.of .bool true, .of (.signed .w16) 5]
        [.of .bool false, .of (.signed .w16) 5] index) ∧
      markedRecord.scanBounds [.of .bool true, .null] 1 =
        .ok ([0xFE, 0xFF, 0xFF, 0xFF, 0x86], some [0xFE, 0xFF, 0xFF, 0xFF, 0x87])) := by
  constructor
  · have hbuild : build "Tagged" tagged.schema tagged.padding = .ok tagged := rfl
    have hbounds : tagged.scanBounds [.of .bytes [7], .of (.signed .w16) 5] 1 =
        .ok ([0, 0xFE, 0xF8, 0xFF, 0xFF], some [0, 0xFE, 0xF9]) := by decide
    have hkey : tagged.encodeKey [.of .bytes [7], .of (.signed .w16) 9] .all =
        .ok [0, 0xFE, 0xF8, 0xFF, 0xFF, 0x80, 0x09, 0] := by decide
    rcases scanBounds_exact hbuild hbounds with ⟨hexact, hcongr⟩
    exact ⟨hexact _ _ hkey, hcongr _ rfl (by decide)⟩
  · have hbuild : build "Marked" markedRecord.schema markedRecord.padding = .ok markedRecord := rfl
    have hbounds : markedRecord.scanBounds [.of .bool true, .of (.signed .w16) 5] 1 =
        .ok ([0xFE, 0xFF, 0xFF, 0xFF, 0x86], some [0xFE, 0xFF, 0xFF, 0xFF, 0x87]) := by decide
    have hkey : markedRecord.encodeKey [.of .bool false, .of (.signed .w16) 5] .all =
        .ok [0xFE, 0xFF, 0xFF, 0xFF, 0x91, 0x80, 0x05, 0] := by decide
    rcases scanBounds_exact hbuild hbounds with ⟨hexact, hcongr⟩
    exact ⟨hexact _ _ hkey, hcongr _ rfl (by decide)⟩

end RecordBytes.RecordFormat
