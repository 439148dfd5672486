import Mathlib
import RecordBytes.Proofs.Key.RoundTrip
import RecordBytes.Proofs.Layout.Scanning

/-!
# Values out of whole keys

The values of a span are taken out of a whole key by passing over the cells before them.  Where the whole key
can be read, whatever bytes it is made of, they are the values of the span.  The other way around the reader of
a part is less strict: it does not look behind the span, so it takes a key with bytes left behind its last
cell, even when the span reaches the end of the key.

Main results:

- `KeyLayout.decodePart_of_decode`: what is read of a part is the part of what is read.
- `KeyLayout.decodePart_all_eq_ok`: the keys of which all values can be taken out.
-/

namespace RecordBytes

open Outcome

namespace KeyLayout

variable {layout : KeyLayout}

/-- The span that bounds name lies inside the key. -/
theorem stop_le_of_resolve {bounds : Bounds} {span : Span} (h : layout.resolve bounds = .ok span) :
    span.stop ≤ layout.fields.length := by
  unfold resolve at h
  split at h
  · next hone =>
    cases h
    exact hone.ge
  · rw [← Span.count_of_resolve h]
    exact span.stop_le_count

/-! ## Reading -/

theorem body_eq_ok {needed : Nat} {padding : Padding} {bytes found : Bytes} :
    body needed padding bytes = .ok found ↔ needed ≤ bytes.length ∧ padding.strip? bytes = some found := by
  unfold body
  by_cases hshort : bytes.length < needed
  · simp [hshort, hshort.not_ge]
  · simp [hshort, Nat.le_of_not_lt hshort]

/-- The part of a key that covers a span is the run of its cells up to the end of what stands between the
padding. -/
theorem decodeSpan_of_not_bare (hbare : layout.bare? = none) {span : Span}
    (hstop : span.stop ≤ layout.fields.length) (bytes : Bytes) :
    layout.decodeSpan bytes span = (do
      let body ← body (Run.leastSize ⟨.sortable, span.slice layout.fields, layout.padding.within span⟩)
        (layout.padding.within span) bytes
      let (values, _) ←
        ((Cells.read .sortable (span.slice layout.fields)).upToEnd .afterKey).runOn body
      return values) := by
  unfold decodeSpan
  rw [hbare]
  simp only [run?_of_stop_le hstop, inBounds, ok_bind]
  congr 1
  funext body
  unfold Reading.runOn
  cases hread : Cells.read .sortable (span.slice layout.fields) (Cursor.start body 0) with
  | error fault after =>
    rw [Reading.upToEnd_of_error hread]
    rfl
  | ok values after =>
    by_cases hend : after.unread = []
    · rw [Reading.upToEnd_of_end hread hend]
      exact if_neg (by simp [Cursor.remaining, hend])
    · rw [Reading.upToEnd_of_left hread hend]
      exact if_pos (by simp [Cursor.remaining, hend])

/-- The part of a key that covers a span can be read when the cells of the span can, up to the end of what
stands between the padding. -/
theorem decodeSpan_eq_ok (hbare : layout.bare? = none) {span : Span} (hstop : span.stop ≤ layout.fields.length)
    {bytes : Bytes} {values : List Value} :
    layout.decodeSpan bytes span = .ok values ↔
      Run.leastSize ⟨.sortable, span.slice layout.fields, layout.padding.within span⟩ ≤ bytes.length ∧
        ∃ body after, (layout.padding.within span).strip? bytes = some body ∧
          Cells.read .sortable (span.slice layout.fields) (Cursor.start body 0) = .ok values after ∧
          after.unread = [] := by
  rw [decodeSpan_of_not_bare hbare hstop]
  simp only [bind_eq_ok, body_eq_ok, pure_eq_ok, Prod.exists, Reading.runOn_eq_ok, Reading.upToEnd_eq_ok]
  constructor
  · rintro ⟨body, ⟨hneeded, hstrip⟩, found, after, ⟨hread, hend⟩, rfl⟩
    exact ⟨hneeded, body, after, hstrip, hread, hend⟩
  · rintro ⟨hneeded, body, after, hstrip, hread, hend⟩
    exact ⟨body, ⟨hneeded, hstrip⟩, values, after, ⟨hread, hend⟩, rfl⟩

/-- What is read of the bounds that name a span. -/
theorem decode_of_resolve {bounds : Bounds} {span : Span} (hspan : layout.resolve bounds = .ok span)
    (bytes : Bytes) : layout.decode bytes bounds = layout.decodeSpan bytes span := by
  rw [decode, hspan]
  rfl

theorem within_all (layout : KeyLayout) :
    layout.padding.within (Span.head layout.fields.length layout.fields.length (Nat.le_refl _)) =
      layout.padding := by
  simp [Padding.within, Span.head, Span.isHead, Span.isTail]

/-- A whole key can be read when the cells of all fields can, up to the end of what stands between the
padding. -/
theorem decode_all_eq_ok (hbare : layout.bare? = none) {key : Bytes} {values : List Value} :
    layout.decode key .all = .ok values ↔
      layout.run.leastSize ≤ key.length ∧
        ∃ body after, layout.padding.strip? key = some body ∧
          Cells.read .sortable layout.fields (Cursor.start body 0) = .ok values after ∧ after.unread = [] := by
  rw [decode_of_resolve (resolve_all layout), decodeSpan_eq_ok hbare (Nat.le_refl _), Span.slice_head,
    List.take_length, within_all]
  rfl

/-- A whole key holds a value for each field. -/
theorem length_of_decode_all {key : Bytes} {values : List Value} (h : layout.decode key .all = .ok values) :
    values.length = layout.fields.length := by
  cases hbare : layout.bare? with
  | none =>
    rcases (decode_all_eq_ok hbare).mp h with ⟨-, body, after, -, hread, -⟩
    exact Cells.length_read hread
  | some field =>
    rw [decode_of_resolve (resolve_all layout), decodeSpan, hbare] at h
    simp only [bind_eq_ok, pure_eq_ok] at h
    rcases h with ⟨value, -, rfl⟩
    rw [(bare?_eq_some hbare).1]
    rfl

/-- A whole key is refused for the bytes that its cells leave in front of the padding. -/
theorem decode_all_of_left (hbare : layout.bare? = none) {key body : Bytes} {values : List Value}
    {after : Cursor} (hneeded : layout.run.leastSize ≤ key.length)
    (hstrip : layout.padding.strip? key = some body)
    (hread : Cells.read .sortable layout.fields (Cursor.start body 0) = .ok values after)
    (hleft : after.unread ≠ []) :
    layout.decode key .all = .error (.corrupt (.afterKey after.unread.length)) := by
  have hbody : KeyLayout.body layout.run.leastSize layout.padding key = .ok body :=
    body_eq_ok.mpr ⟨hneeded, hstrip⟩
  have hrun : ((Cells.read .sortable layout.fields).upToEnd .afterKey).runOn body =
      .error (.corrupt (.afterKey after.unread.length)) := by
    rw [Reading.runOn, Reading.upToEnd_of_left hread hleft]
  rw [decode_of_resolve (resolve_all layout), decodeSpan_of_not_bare hbare (Nat.le_refl _), Span.slice_head,
    List.take_length, within_all]
  change (KeyLayout.body layout.run.leastSize layout.padding key >>= _) = _
  rw [hbody, ok_bind, hrun]
  rfl

/-- The values of a span can be taken out of a key when the cells before the span can be passed over and those
of the span can be read. -/
theorem decodePart_eq_ok (hbare : layout.bare? = none) {bounds : Bounds} {span : Span}
    (hspan : layout.resolve bounds = .ok span) {key : Bytes} {values : List Value} :
    layout.decodePart key bounds = .ok values ↔
      layout.run.leastSize ≤ key.length ∧
        ∃ body middle after, layout.padding.strip? key = some body ∧
          Cells.skip .sortable (layout.fields.take span.start) (Cursor.start body 0) = .ok () middle ∧
          Cells.read .sortable (span.slice layout.fields) middle = .ok values after := by
  have hstop := stop_le_of_resolve hspan
  have hbefore : slice? layout.fields 0 span.start = some (layout.fields.take span.start) :=
    slice?_eq_some.mpr ⟨⟨Nat.zero_le _, span.start_le_stop.trans hstop⟩, rfl⟩
  have hfields : span.of? layout.fields = some (span.slice layout.fields) :=
    Span.of?_eq_some.mpr ⟨hstop, rfl⟩
  unfold decodePart
  rw [hspan, hbare]
  simp only [lift_refusal_ok, hbefore, hfields, inBounds, ok_bind, bind_eq_ok, body_eq_ok, pure_eq_ok,
    Prod.exists, Reading.runOn_eq_ok, readBehind, Reading.bind_eq_ok]
  constructor
  · rintro ⟨body, ⟨hneeded, hstrip⟩, found, after, ⟨_, middle, hskip, hread⟩, rfl⟩
    exact ⟨hneeded, body, middle, after, hstrip, hskip, hread⟩
  · rintro ⟨hneeded, body, middle, after, hstrip, hskip, hread⟩
    exact ⟨body, ⟨hneeded, hstrip⟩, values, after, ⟨(), middle, hskip, hread⟩, rfl⟩

/-! ## Parts of what is read -/

/-- Where a whole key can be read, the values of any span can be taken out of it, and they are those of the
whole that lie in the span. -/
theorem decodePart_of_decode {key : Bytes} {bounds : Bounds} {span : Span} {values : List Value}
    (hdecode : layout.decode key .all = .ok values) (hspan : layout.resolve bounds = .ok span) :
    ∃ found, span.of? values = some found ∧ layout.decodePart key bounds = .ok found := by
  cases hbare : layout.bare? with
  | some field =>
    rcases resolve_of_bare hbare hspan with rfl
    refine ⟨values, ?_, ?_⟩
    · have hone : values.length = 1 := by
        rw [decode_of_resolve (resolve_all layout), decodeSpan, hbare] at hdecode
        simp only [bind_eq_ok, pure_eq_ok] at hdecode
        rcases hdecode with ⟨value, -, rfl⟩
        rfl
      rw [Span.of?_eq_some, ← hone]
      exact ⟨Nat.le_refl _, by simp [Span.slice, Span.full]⟩
    · unfold decodePart
      rw [hspan, hbare]
      exact hdecode
  | none =>
    rcases (decode_all_eq_ok hbare).mp hdecode with ⟨hneeded, body, after, hstrip, hread, -⟩
    rw [← span.append_slice_append layout.fields, Cells.read_append] at hread
    rcases hread with ⟨front, rest, middle, hfront, hrest, rfl⟩
    rcases Cells.read_append.mp hrest with ⟨found, behind, stop, hfound, -, rfl⟩
    have hstop := stop_le_of_resolve hspan
    have hfrontLength : front.length = span.start := by
      rw [Cells.length_read hfront]
      exact List.length_take_of_le (span.start_le_stop.trans hstop)
    have hfoundLength : found.length = span.size := by
      rw [Cells.length_read hfound, span.length_slice hstop]
    refine ⟨found, Span.of?_append hfrontLength hfoundLength behind, ?_⟩
    exact (decodePart_eq_ok hbare hspan).mpr
      ⟨hneeded, body, middle, stop, hstrip, Cells.skip_of_read hfront, hfound⟩

/-- The key of a count of any size, which may be missing, and of a level that sorts downward. -/
def countAndLevel : KeyLayout :=
  ⟨[Field.plain "count" .bigint true .unspecified, Field.plain "level" (.signed .w16) false .descending],
    ⟨1, 1⟩⟩

/-- The level is taken out from behind a count that is written in more bytes than it needs. -/
theorem decodePart_countAndLevel :
    ∃ found, (⟨1, 2, 2, by decide, by decide⟩ : Span).of? [.of .bigint (5 : Int), .of (.signed .w16) 5] =
        some found ∧
      countAndLevel.decodePart [0xAA, 1, 0x80, 0, 0, 2, 0, 5, 0x7F, 0xFA, 0xBB] ⟨.included 1, .unbounded⟩ =
        .ok found := by
  have hdecode : countAndLevel.decode [0xAA, 1, 0x80, 0, 0, 2, 0, 5, 0x7F, 0xFA, 0xBB] .all =
      .ok [.of .bigint (5 : Int), .of (.signed .w16) 5] := by decide
  have hspan : countAndLevel.resolve ⟨.included 1, .unbounded⟩ = .ok ⟨1, 2, 2, by decide, by decide⟩ := rfl
  exact decodePart_of_decode hdecode hspan

/-! ## Bytes left behind the last cell -/

/-- All values can be taken out of a key when the cells of all fields can be read. -/
theorem decodePart_all_of_cells (hbare : layout.bare? = none) {key : Bytes} {values : List Value} :
    layout.decodePart key .all = .ok values ↔
      layout.run.leastSize ≤ key.length ∧
        ∃ body after, layout.padding.strip? key = some body ∧
          Cells.read .sortable layout.fields (Cursor.start body 0) = .ok values after := by
  rw [decodePart_eq_ok hbare (resolve_all layout), Span.slice_head, List.take_length]
  constructor
  · rintro ⟨hneeded, body, middle, after, hstrip, hskip, hread⟩
    rcases Reading.pure_eq_ok.mp hskip with ⟨-, rfl⟩
    exact ⟨hneeded, body, after, hstrip, hread⟩
  · rintro ⟨hneeded, body, after, hstrip, hread⟩
    exact ⟨hneeded, body, Cursor.start body 0, after, hstrip, rfl, hread⟩

/-- The keys of which all values can be taken out are those that can be read and, where the key is no bare byte
array, those that can be read without some bytes behind their last cell.  A reader of the whole key refuses
these for the bytes left behind. -/
theorem decodePart_all_eq_ok {key : Bytes} {values : List Value} :
    layout.decodePart key .all = .ok values ↔
      layout.decode key .all = .ok values ∨
        (layout.bare? = none ∧ ∃ front left back, front ++ left ++ back = key ∧
          back.length = layout.padding.after ∧ left ≠ [] ∧ layout.decode (front ++ back) .all = .ok values ∧
          layout.decode key .all = .error (.corrupt (.afterKey left.length))) := by
  cases hbare : layout.bare? with
  | some field =>
    have hsame : layout.decodePart key .all = layout.decode key .all := by
      unfold decodePart
      rw [resolve_all, hbare]
      rfl
    simp [hsame]
  | none =>
    rw [decodePart_all_of_cells hbare]
    constructor
    · rintro ⟨hneeded, body, after, hstrip, hread⟩
      by_cases hleft : after.unread = []
      · exact Or.inl ((decode_all_eq_ok hbare).mpr ⟨hneeded, body, after, hstrip, hread, hleft⟩)
      · have hrefused := decode_all_of_left hbare hneeded hstrip hread hleft
        rcases (Cells.confined_read_any _ _).moves hread with ⟨moved, hbody, hleast, hagain⟩
        rcases Padding.strip?_eq_some.mp hstrip with ⟨front, back, hfront, hback, rfl⟩
        have hwithout := hagain []
        rw [List.append_nil, Cursor.facing_start] at hwithout
        refine Or.inr ⟨rfl, front ++ moved, after.unread, back, ?_, hback, hleft, ?_, hrefused⟩
        · rw [List.append_assoc front, ← hbody]
          rfl
        · refine (decode_all_eq_ok hbare).mpr ⟨?_, moved, after.facing [], ?_, hwithout, rfl⟩
          · simp only [run, Run.leastSize, Padding.size, List.length_append]
            omega
          · exact Padding.strip?_eq_some.mpr ⟨front, back, hfront, hback, rfl⟩
    · rintro (hdecode | ⟨-, front, left, back, rfl, hback, -, hdecode, -⟩)
      · rcases (decode_all_eq_ok hbare).mp hdecode with ⟨hneeded, body, after, hstrip, hread, -⟩
        exact ⟨hneeded, body, after, hstrip, hread⟩
      · rcases (decode_all_eq_ok hbare).mp hdecode with ⟨hneeded, body, after, hstrip, hread, -⟩
        rcases Padding.strip?_eq_some.mp hstrip with ⟨front', back', hfront', hback', hsame⟩
        rcases List.append_inj' hsame (hback'.trans hback.symm) with ⟨rfl, rfl⟩
        have hlonger := (Cells.confined_read_any _ _).ahead left hread
        refine ⟨?_, body ++ left, _, ?_, hlonger⟩
        · simp only [List.length_append] at hneeded ⊢
          omega
        · exact Padding.strip?_eq_some.mpr ⟨front', back', hfront', hback', by simp⟩

/-- The key of two Boolean values. -/
def twoFlags : KeyLayout :=
  ⟨[Field.plain "a" .bool false .unspecified, Field.plain "b" .bool false .unspecified], ⟨0, 0⟩⟩

/-- A byte behind the last cell goes unnoticed when the values are taken out: not every key of which all values
can be taken out can be read. -/
theorem not_all_parts_strict :
    ¬ ∀ (layout : KeyLayout) (key : Bytes) (values : List Value),
      layout.decodePart key .all = .ok values → layout.decode key .all = .ok values := by
  intro hall
  have hpart : twoFlags.decodePart [1, 1, 9] .all = .ok [.of .bool true, .of .bool true] := by decide
  have hrefused : twoFlags.decode [1, 1, 9] .all = .error (.corrupt (.afterKey 1)) := by decide
  rw [hall twoFlags _ _ hpart] at hrefused
  cases hrefused

end KeyLayout
end RecordBytes
