import Mathlib
import RecordBytes.Proofs.Cursor.Requests
import RecordBytes.Proofs.Data.Scanning
import RecordBytes.Proofs.Format.Sizes
import RecordBytes.Proofs.Key.Parts
import RecordBytes.Proofs.Layout.Indexed

/-!
# Sizes known beforehand

Of a cell it is known without its value how many bytes it takes at least and, where that does not depend on the value,
how many it takes.  These numbers hold of every cell that a reader accepts, also of those that no writer makes.  The
decoders of keys and of data rely on them: they look at the length of what they are given before they read it, and
this refuses nothing that could be read.

Main definitions:

- `Consumes`: a step of reading that moves over as many bytes as are known beforehand.
- `Sortable.shortest`, `Compact.shortest`: cells of the least size.
- `KeyLayout.decodeUnmeasured`, `DataLayout.decodeUnmeasured`: decoders that do not look at the length.

Main results:

- `Indexed.passed`: the stretch that a step with a twin moves over.
- `Sortable.consumes_read`, `Compact.consumes_read`: the bytes that a cell takes.
- `KeyLayout.decodeSpan_eq`, `DataLayout.decode_eq`: decoding is a look at the length, and decoding without one.
- `KeyLayout.leastSizeOver_le`, `DataLayout.leastSizeWith_le`: what is read without a look is long enough for one.
- `known_sizes_hold`: cells, keys and data.
-/

namespace RecordBytes

open Outcome

/-! ## Steps of reading -/

/-- Whenever the step succeeds, it moves over `least` bytes at least, and over as many as are fixed, if any number
is. -/
def Consumes {ε α : Type} (least : Nat) (fixed : Option Nat) (step : EStateM ε Cursor α) : Prop :=
  ∀ ⦃cursor after : Cursor⦄ ⦃found : α⦄, step cursor = .ok found after →
    ∃ stretch, cursor.Passed after stretch ∧ least ≤ stretch.length ∧ ∀ width ∈ fixed, stretch.length = width

/-- A step with a twin moves its position by the bytes that it moves over. -/
theorem Indexed.passed {ε α : Type} {Blames : ε → Prop} {least : Nat} {step : EStateM ε Cursor α}
    (h : Indexed step) (hconfined : Confined Blames least step) {cursor after : Cursor} {found : α}
    (hrun : step cursor = .ok found after) : ∃ stretch, cursor.Passed after stretch ∧ least ≤ stretch.length := by
  rcases h with ⟨call, hcall⟩
  rcases hconfined.moves hrun with ⟨moved, hunread, hleast, -⟩
  -- A buffer that has what is unread behind as many bytes as were read.
  let reader : Reader := ⟨List.replicate cursor.position 0 ++ cursor.unread, cursor.position, cursor.mask⟩
  have hlength : reader.bytes.length = cursor.position + cursor.unread.length := by simp [reader]
  have hinside : reader.Inside := by
    rw [Reader.Inside, hlength]
    exact Nat.le_add_right _ _
  have hcursor : reader.cursor = cursor := by simp [reader, Reader.cursor]
  have hagrees := hcall.follows reader hinside
  rw [hcursor, hrun] at hagrees
  generalize call reader = ended at hagrees
  cases hagrees with
  | @found _ later hbytes hlater =>
    refine ⟨moved, ⟨hunread, ?_⟩, hleast⟩
    have hmoved := congrArg List.length hunread
    rw [List.length_append] at hmoved
    have hleft : later.cursor.unread.length = reader.bytes.length - later.position := by
      rw [← hbytes]
      exact List.length_drop
    have hend : later.position ≤ reader.bytes.length := hbytes ▸ hlater
    have hposition : later.cursor.position = later.position := rfl
    omega

/-! ## Cells -/

/-- Passing over bytes moves over as many as are told. -/
theorem Scan.length_of_skip {count : Nat} {what : String} {cursor after : Cursor} {stretch : Bytes}
    (hrun : skip count what cursor = .ok () after) (hpassed : cursor.Passed after stretch) :
    stretch.length = count := by
  unfold skip at hrun
  split at hrun
  · cases hrun
  · cases hrun
    exact (Nat.add_left_cancel hpassed.position_eq).symm

section

variable {kind : Kind} {width : Nat}

/-- A cell of fixed width is passed over by its width. -/
theorem Sortable.skip_of_width? (h : kind.width? = some width) : skip kind false = Scan.skip width kind.name := by
  have hcontent : skip kind false = skipContent kind := rfl
  rw [hcontent]
  unfold skipContent
  rw [h]

theorem Compact.skip_of_width? (h : kind.width? = some width) : skip kind false = Scan.skip width kind.name := by
  have hpayload : skip kind false = skipPayload kind width := by
    unfold skip readLength
    rw [h]
    rfl
  have hkind : kind ≠ .decimal := by
    rintro rfl
    cases h
  rw [hpayload, skipPayload]
  simp only [if_neg hkind, bind_pure_unit]

end

/-- What is read moves over the fixed width of its kind, if passing over it does: both go to the same place. -/
theorem Scan.PassedBy.consumes {α : Type} {OnContent : Damage → Prop} {read : Scan α} {skip : Scan Unit} {least : Nat}
    {fixed : Option Nat} (h : PassedBy OnContent read skip) (hindexed : Indexed read)
    (hconfined : Scan.Confined least read)
    (hskip : ∀ width ∈ fixed, ∃ what, skip = Scan.skip width what) : Consumes least fixed read := by
  intro cursor after found hread
  rcases hindexed.passed hconfined hread with ⟨stretch, hpassed, hleast⟩
  refine ⟨stretch, hpassed, hleast, ?_⟩
  intro width hwidth
  rcases hskip width hwidth with ⟨what, rfl⟩
  exact length_of_skip (h.skip_of_read hread) hpassed

theorem Sortable.consumes_read (kind : Kind) (nullable : Bool) :
    Consumes (leastSize kind nullable) (fixedSize kind nullable) (read kind nullable) := by
  refine (passedBy_skip kind nullable).consumes (indexed_read kind nullable) (confined_read kind nullable) ?_
  intro width hwidth
  cases nullable with
  | true => cases hwidth
  | false => exact ⟨kind.name, skip_of_width? hwidth⟩

theorem Compact.consumes_read (kind : Kind) (nullable : Bool) :
    Consumes (leastSize kind nullable) (fixedSize kind nullable) (read kind nullable) := by
  refine (passedBy_skip kind nullable).consumes (indexed_read kind nullable) (confined_read kind nullable) ?_
  intro width hwidth
  cases nullable with
  | true => cases hwidth
  | false => exact ⟨kind.name, skip_of_width? hwidth⟩

/-! ## Shortest cells -/

/-- A shortest cell of a kind, ascending: that of a missing value, of an empty one, or of a number zero; of an integer
of any size, a header without digits, which no writer makes. -/
def Sortable.shortest (kind : Kind) (nullable : Bool) : Bytes :=
  if nullable then [nullMarker]
  else
    match kind with
    | .bigint => [0x80, 0, 0, 0]
    | .decimal => [0x80]
    | _ => List.replicate (leastSize kind false) 0

/-- A shortest cell of a kind. -/
def Compact.shortest (kind : Kind) (nullable : Bool) : Bytes :=
  if nullable && kind.width?.isNone then [LengthPrefix.nullSentinel]
  else List.replicate (leastSize kind nullable) 0

theorem Sortable.decode_shortest (kind : Kind) (nullable : Bool) :
    ∃ value, decode kind nullable .ascending (shortest kind nullable) = .ok (value, leastSize kind nullable) := by
  cases kind with
  | signed width | unsigned width => cases width <;> cases nullable <;> exact ⟨_, rfl⟩
  | float precision => cases precision <;> cases nullable <;> exact ⟨_, rfl⟩
  | bool | char | text | bytes | bigint | decimal | lob => cases nullable <;> exact ⟨_, rfl⟩

theorem Compact.decode_shortest (kind : Kind) (nullable : Bool) :
    ∃ value, decode kind nullable (shortest kind nullable) = .ok (value, leastSize kind nullable) := by
  cases kind with
  | signed width | unsigned width => cases width <;> cases nullable <;> exact ⟨_, rfl⟩
  | float precision => cases precision <;> cases nullable <;> exact ⟨_, rfl⟩
  | bool | char | text | bytes | bigint | decimal | lob => cases nullable <;> exact ⟨_, rfl⟩

/-! ## Keys -/

/-- Between padding that is taken off stand as many bytes as are left. -/
theorem Padding.length_of_strip? {padding : Padding} {bytes body : Bytes} (h : padding.strip? bytes = some body) :
    bytes.length = padding.size + body.length := by
  rcases strip?_eq_some.mp h with ⟨front, back, hfront, hback, rfl⟩
  simp only [List.length_append, hfront, hback, size]
  omega

/-- No body is read that is shorter than the least one. -/
theorem Bare.leastSize_le_of_decode {nullable : Bool} {damage : Damage} {body : Bytes} {stored : Value}
    (h : decode nullable damage body = .ok stored) : leastSize nullable ≤ body.length := by
  cases nullable with
  | false => exact Nat.zero_le _
  | true =>
    cases body with
    | nil => cases h
    | cons first rest => exact Nat.succ_le_succ (Nat.zero_le _)

/-- A run that can be read between padding is not shorter than the shortest one. -/
theorem Run.leastSize_le_of_read {run : Run} {bytes body : Bytes} {after : Cursor} {values : List Value}
    (hstrip : run.padding.strip? bytes = some body)
    (hread : Cells.read run.form run.fields (Cursor.start body 0) = .ok values after) :
    run.leastSize ≤ bytes.length := by
  rcases (Cells.confined_read_any run.form run.fields).moves hread with ⟨moved, hunread, hleast, -⟩
  have hbody : body = moved ++ after.unread := hunread
  rw [Padding.length_of_strip? hstrip, leastSize, hbody, List.length_append]
  omega

namespace KeyLayout

variable {layout : KeyLayout}

/-- The least length of the part of a key that covers a span. -/
def leastSizeOver (layout : KeyLayout) (span : Span) : Nat :=
  layout.leastSizeIn ⟨.sortable, span.slice layout.fields, layout.padding.within span⟩

/-- The values of a span, out of the part of a key that covers it, without a look at the length of the part. -/
def decodeSpanUnmeasured (layout : KeyLayout) (bytes : Bytes) (span : Span) : Except Fault (List Value) := do
  match layout.bare? with
  | some field =>
    let body ← inBounds (layout.padding.strip? bytes)
    return [← field.logical (← Bare.decode field.nullable .bareNullMarker body)]
  | none =>
    let run ← inBounds (layout.run? span)
    let body ← inBounds (run.padding.strip? bytes)
    let (values, cursor) ← (Cells.read .sortable run.fields).runOn body
    if cursor.remaining ≠ 0 then throw (.corrupt (.afterKey cursor.remaining))
    return values

/-- Decoding is a look at the length of the part, and decoding without one. -/
theorem decodeSpan_eq {span : Span} (hstop : span.stop ≤ layout.fields.length) (bytes : Bytes) :
    layout.decodeSpan bytes span =
      if bytes.length < layout.leastSizeOver span then
        .error (.corrupt (.keyTooShort (layout.leastSizeOver span) bytes.length))
      else layout.decodeSpanUnmeasured bytes span := by
  unfold decodeSpan decodeSpanUnmeasured leastSizeOver leastSizeIn
  cases hbare : layout.bare? with
  | some field =>
    simp only [decodeBare, body]
    split
    · rfl
    · simp only [bind_assoc]
  | none =>
    simp only [run?_of_stop_le hstop, inBounds, ok_bind, body]
    split <;> rfl

/-- What can be read without a look at its length has the length that is looked for. -/
theorem leastSizeOver_le {span : Span} (hstop : span.stop ≤ layout.fields.length) {bytes : Bytes}
    {values : List Value} (h : layout.decodeSpanUnmeasured bytes span = .ok values) :
    layout.leastSizeOver span ≤ bytes.length := by
  unfold decodeSpanUnmeasured at h
  unfold leastSizeOver leastSizeIn
  cases hbare : layout.bare? with
  | some field =>
    simp only [hbare, bind_eq_ok, inBounds_eq_ok, lift_damage_eq_ok] at h
    rcases h with ⟨body, hstrip, stored, hstored, -⟩
    have hleast := Bare.leastSize_le_of_decode hstored
    have hlength := Padding.length_of_strip? hstrip
    simp only [bareLeastSize]
    rw [Padding.size] at hlength
    omega
  | none =>
    simp only [hbare, run?_of_stop_le hstop, bind_eq_ok, inBounds_eq_ok, Option.some.injEq, Prod.exists,
      Reading.runOn_eq_ok] at h
    rcases h with ⟨_, rfl, body, hstrip, found, after, hread, -⟩
    exact Run.leastSize_le_of_read hstrip hread

/-- The values of the part of a key that bounds name, without a look at its length. -/
def decodeUnmeasured (layout : KeyLayout) (bytes : Bytes) (bounds : Bounds) : Except Fault (List Value) := do
  layout.decodeSpanUnmeasured bytes (← layout.resolve bounds)

/-- The look at the length refuses nothing that could be read. -/
theorem decode_eq_ok_iff_unmeasured {bounds : Bounds} {bytes : Bytes} {values : List Value} :
    layout.decode bytes bounds = .ok values ↔ layout.decodeUnmeasured bytes bounds = .ok values := by
  simp only [decode, decodeUnmeasured, bind_eq_ok, lift_refusal_eq_ok]
  refine exists_congr fun span => and_congr_right fun hspan => ?_
  have hstop := stop_le_of_resolve hspan
  rw [decodeSpan_eq hstop, ite_error_eq_ok, Nat.not_lt]
  exact ⟨fun h => h.2, fun h => ⟨leastSizeOver_le hstop h, h⟩⟩

end KeyLayout

/-! ## Data -/

namespace DataLayout

variable {layout : DataLayout} {expected : Option Nat}

/-- The values of data, without a look at its length. -/
def decodeUnmeasured (layout : DataLayout) (bytes : Bytes) (expected : Option Nat) : Except Fault (List Value) := do
  let body ← inBounds (layout.padding.strip? bytes)
  let (outcome, _) ← (readBehind expected layout.readValues).runOn body
  currentOnly expected outcome

/-- Decoding is a look at the length, and decoding without one. -/
theorem decode_eq (layout : DataLayout) (bytes : Bytes) (expected : Option Nat) :
    layout.decode bytes expected =
      if bytes.length < layout.leastSizeWith expected then
        .error (.corrupt (.dataTooShort (layout.leastSizeWith expected) bytes.length))
      else layout.decodeUnmeasured bytes expected := by
  have hbody : layout.body bytes expected =
      if bytes.length < layout.leastSizeWith expected then
        .error (.corrupt (.dataTooShort (layout.leastSizeWith expected) bytes.length))
      else inBounds (layout.padding.strip? bytes) := rfl
  simp only [decode, decodeChecked, decodeUnmeasured, hbody]
  split
  · rfl
  · simp only [bind_assoc, pure_bind]

/-- Values are read from as many bytes as data has at least between its padding. -/
theorem leastSize_le_of_readValues {cursor after : Cursor} {values : List Value}
    (h : layout.readValues cursor = .ok values after) :
    layout.leastSize ≤ layout.padding.size + cursor.unread.length := by
  cases hbare : layout.bare? with
  | some field =>
    rw [readValues, hbare, Reading.bind_eq_ok] at h
    rcases h with ⟨value, middle, hvalue, -⟩
    unfold readBare at hvalue
    split at hvalue
    · next stored hstored =>
      have hleast := Bare.leastSize_le_of_decode hstored
      simp only [leastSize, hbare, Padding.size]
      omega
    · cases hvalue
  | none =>
    rw [readValues_of_not_bare hbare, Reading.upToEnd_eq_ok] at h
    rcases (Cells.confined_read_any _ _).moves h.1 with ⟨moved, hunread, hleast, -⟩
    rw [leastSize_of_not_bare hbare, hunread, List.length_append]
    omega

/-- What can be read without a look at its length has the length that is looked for. -/
theorem leastSizeWith_le {bytes : Bytes} {values : List Value}
    (h : layout.decodeUnmeasured bytes expected = .ok values) :
    layout.leastSizeWith expected ≤ bytes.length := by
  simp only [decodeUnmeasured, bind_eq_ok, inBounds_eq_ok, Prod.exists, Reading.runOn_eq_ok, currentOnly_eq_ok] at h
  rcases h with ⟨body, hstrip, _, after, hrun, rfl⟩
  rcases readBehind_eq_current.mp hrun with ⟨middle, hforeign, hvalues⟩
  rcases (confined_readForeign expected).moves hforeign with ⟨tag, htag, hone, -⟩
  have hleast := leastSize_le_of_readValues hvalues
  have hbody : body = tag ++ middle.unread := htag
  rw [Padding.length_of_strip? hstrip, leastSizeWith, hbody, List.length_append]
  omega

/-- The look at the length refuses nothing that could be read. -/
theorem decode_eq_ok_iff_unmeasured {bytes : Bytes} {values : List Value} :
    layout.decode bytes expected = .ok values ↔ layout.decodeUnmeasured bytes expected = .ok values := by
  rw [decode_eq, ite_error_eq_ok, Nat.not_lt]
  exact ⟨fun h => h.2, fun h => ⟨leastSizeWith_le h, h⟩⟩

end DataLayout

/-! ## Cells, keys and data -/

/-- From any cursor, under any mask, a cell that is read takes its least size at least and its fixed size exactly, in
the sortable and in the compact layout, and there is one of the least size.  Decoding a key, or a part of one, and
decoding data is a look at the length and then decoding without one; and any bytes are read with the look just as
they are without it. -/
theorem known_sizes_hold :
    (∀ kind nullable,
      (Consumes (Sortable.leastSize kind nullable) (Sortable.fixedSize kind nullable) (Sortable.read kind nullable) ∧
        ∃ bytes value, Sortable.decode kind nullable .ascending bytes =
          .ok (value, Sortable.leastSize kind nullable)) ∧
      Consumes (Compact.leastSize kind nullable) (Compact.fixedSize kind nullable) (Compact.read kind nullable) ∧
        ∃ bytes value, Compact.decode kind nullable bytes = .ok (value, Compact.leastSize kind nullable)) ∧
    (∀ (layout : KeyLayout) bounds bytes,
      (∀ span, layout.resolve bounds = .ok span → layout.decode bytes bounds =
        if bytes.length < layout.leastSizeOver span then
          .error (.corrupt (.keyTooShort (layout.leastSizeOver span) bytes.length))
        else layout.decodeUnmeasured bytes bounds) ∧
      ∀ values, layout.decode bytes bounds = .ok values ↔ layout.decodeUnmeasured bytes bounds = .ok values) ∧
    ∀ (layout : DataLayout) expected bytes,
      (layout.decode bytes expected =
        if bytes.length < layout.leastSizeWith expected then
          .error (.corrupt (.dataTooShort (layout.leastSizeWith expected) bytes.length))
        else layout.decodeUnmeasured bytes expected) ∧
      ∀ values, layout.decode bytes expected = .ok values ↔ layout.decodeUnmeasured bytes expected = .ok values := by
  refine ⟨?_, ?_, ?_⟩
  · intro kind nullable
    exact ⟨⟨Sortable.consumes_read kind nullable, _, Sortable.decode_shortest kind nullable⟩,
      Compact.consumes_read kind nullable, _, Compact.decode_shortest kind nullable⟩
  · intro layout bounds bytes
    refine ⟨?_, fun values => KeyLayout.decode_eq_ok_iff_unmeasured⟩
    intro span hspan
    rw [KeyLayout.decode_of_resolve hspan, KeyLayout.decodeUnmeasured, hspan]
    exact KeyLayout.decodeSpan_eq (KeyLayout.stop_le_of_resolve hspan) bytes
  · intro layout expected bytes
    exact ⟨layout.decode_eq bytes expected, fun values => DataLayout.decode_eq_ok_iff_unmeasured⟩

/-- A key is as short as it can be where its count is missing.  A price without digits is written by no writer: it is
read behind a generation in its longer form, and that data is longer than it has to be. -/
theorem known_sizes_hold_withoutDigits :
    (KeyLayout.countAndLevel.leastSizeOver (Span.full 2) = 5 ∧
      KeyLayout.countAndLevel.decode [9, 0, 0x7F, 0xFA, 9] .all = .ok [.null, .of (.signed .w16) 5]) ∧
    DataLayout.readingAndPrice.leastSizeWith (some 5) = 13 ∧
    DataLayout.readingAndPrice.decode [7, 7, 0x80, 0, 0, 5, 0, 0, 0, 0, 0, 0, 0, 0, 0, 0, 0, 0, 0, 7] (some 5) =
      .ok [.of (.float .double) 0, .of .decimal ⟨0, 0⟩] := by
  have hkey : KeyLayout.countAndLevel.decodeUnmeasured [9, 0, 0x7F, 0xFA, 9] .all =
      .ok [.null, .of (.signed .w16) 5] := by decide
  have hdata : DataLayout.readingAndPrice.decodeUnmeasured
      [7, 7, 0x80, 0, 0, 5, 0, 0, 0, 0, 0, 0, 0, 0, 0, 0, 0, 0, 0, 7] (some 5) =
      .ok [.of (.float .double) 0, .of .decimal ⟨0, 0⟩] := by decide
  rcases known_sizes_hold with ⟨-, hkeys, hdatas⟩
  refine ⟨⟨by decide, ?_⟩, by decide, ?_⟩
  · exact ((hkeys KeyLayout.countAndLevel .all _).2 _).mpr hkey
  · exact ((hdatas DataLayout.readingAndPrice (some 5) _).2 _).mpr hdata

end RecordBytes
