import Mathlib
import RecordBytes.Proofs.Key.Prefix

/-!
# Keys in pieces

A key of several fields may be cut into pieces at any fields, and one more cut between two fields splits a
piece into two.  The pieces put together are the key: the padding before it comes with the first piece, the
padding behind it with the last, and the cells in between do not show where the cuts are.  A piece may be
empty, but neither the first nor the last one is.

Main results:

- `KeyLayout.encode_split`: a piece that ends the key is the two pieces that a cut makes of it.
- `KeyLayout.encode_pieces`: a piece that ends the key is the pieces that any cuts make of it.
- `KeyLayout.encode_whole_iff_pieces`: a key is written when all its pieces are, and they make it up.
-/

namespace RecordBytes

open Outcome

/-! ## Runs of values -/

/-- The run of cells of what is stored for the values of some fields. -/
def Cells.Writes (fields : List Field) (values : List Value) (run : Bytes) : Prop :=
  ∃ stored, Cells.stored fields values = .ok stored ∧ Cells.encode .sortable fields stored = .ok run

namespace Cells

variable {field : Field} {fields others : List Field} {value : Value} {values more : List Value}
  {run : Bytes}

theorem writes_nil : Writes [] values run ↔ [] = run := by
  constructor
  · intro h
    rcases h with ⟨stored, hstored, hrun⟩
    exact encode_nil.mp hrun
  · intro h
    exact ⟨[], stored_nil values, encode_nil.mpr h⟩

/-- The run of a first value and of the others. -/
theorem writes_cons : Writes (field :: fields) (value :: values) run ↔
    ∃ stored cell rest, field.stored value = .ok stored ∧ field.encode .sortable stored = .ok cell ∧
      Writes fields values rest ∧ cell ++ rest = run := by
  constructor
  · intro h
    rcases h with ⟨all, hall, hrun⟩
    rcases stored_cons.mp hall with ⟨first, storedRest, hfirst, hstoredRest, rfl⟩
    rcases encode_cons.mp hrun with ⟨cell, rest, hcell, hrest, rfl⟩
    exact ⟨first, cell, rest, hfirst, hcell, ⟨storedRest, hstoredRest, hrest⟩, rfl⟩
  · intro h
    rcases h with ⟨first, cell, rest, hfirst, hcell, ⟨storedRest, hstoredRest, hrest⟩, rfl⟩
    exact ⟨first :: storedRest, stored_cons.mpr ⟨first, storedRest, hfirst, hstoredRest, rfl⟩,
      encode_cons.mpr ⟨cell, rest, hcell, hrest, rfl⟩⟩

/-- The run of some fields and of others behind them. -/
theorem writes_append (hlength : values.length = fields.length) :
    Writes (fields ++ others) (values ++ more) run ↔
      ∃ front back, Writes fields values front ∧ Writes others more back ∧ front ++ back = run := by
  induction fields generalizing values run with
  | nil =>
    rcases List.length_eq_zero_iff.mp hlength with rfl
    simp [writes_nil]
  | cons field fields ih =>
    rcases List.exists_cons_of_length_eq_add_one hlength with ⟨value, values, rfl⟩
    have hothers : ∀ rest, _ := fun rest => @ih values rest (Nat.succ.inj hlength)
    rw [List.cons_append, List.cons_append, writes_cons]
    constructor
    · intro h
      rcases h with ⟨stored, cell, rest, hstored, hcell, hrest, rfl⟩
      rcases (hothers rest).mp hrest with ⟨front, back, hfront, hback, rfl⟩
      exact ⟨cell ++ front, back, writes_cons.mpr ⟨stored, cell, front, hstored, hcell, hfront, rfl⟩,
        hback, List.append_assoc _ _ _⟩
    · intro h
      rcases h with ⟨first, back, hfirst, hback, rfl⟩
      rcases writes_cons.mp hfirst with ⟨stored, cell, front, hstored, hcell, hfront, rfl⟩
      exact ⟨stored, cell, front ++ back, hstored, hcell,
        (hothers (front ++ back)).mpr ⟨front, back, hfront, hback, rfl⟩, (List.append_assoc _ _ _).symm⟩

end Cells

/-! ## Pieces -/

namespace Bounds

/-- The bounds of the properties from `start` up to but not including `stop`. -/
def between (start stop : Nat) : Bounds := ⟨.included start, .excluded stop⟩

/-- The bounds of the pieces that cuts make of the properties from `start` up to `stop`. -/
def pieces (start : Nat) : (cuts : List Nat) → (stop : Nat) → List Bounds
  | [], stop => [between start stop]
  | cut :: cuts, stop => between start cut :: pieces cut cuts stop

end Bounds

/-- Two adjoining spans of one list and the span that covers both. -/
structure Span.Adjoin (front back whole : Span) : Prop where
  start_eq : front.start = whole.start
  stop_eq_start : front.stop = back.start
  stop_eq : back.stop = whole.stop
  front_count_eq : front.count = whole.count
  back_count_eq : back.count = whole.count

/-- The items of two adjoining spans are those of the span that covers both. -/
theorem Span.Adjoin.slice_append {α : Type} {front back whole : Span} (h : Adjoin front back whole)
    (items : List α) : front.slice items ++ back.slice items = whole.slice items := by
  rcases h with ⟨hstart, hcut, hstop, -, -⟩
  have hfront := front.start_le_stop
  have hback := back.start_le_stop
  have hshort : (items.take back.stop).take front.stop = items.take front.stop := by
    rw [List.take_take, Nat.min_eq_left (by omega)]
  have hbehind : (items.take back.stop).drop back.start =
      ((items.take back.stop).drop front.start).drop (front.stop - front.start) := by
    rw [List.drop_drop, ← hcut, Nat.add_sub_cancel' hfront]
  unfold slice
  rw [← hshort, hbehind, List.drop_take, List.take_append_drop, hstart, hstop]

/-- The run of a span is the runs of two adjoining spans that make it up. -/
theorem Span.Adjoin.writes_iff {front back whole : Span} (h : Adjoin front back whole) {fields : List Field}
    {values : List Value} (hfields : front.stop ≤ fields.length) (hvalues : front.stop ≤ values.length)
    {run : Bytes} :
    Cells.Writes (whole.slice fields) (whole.slice values) run ↔
      ∃ first second, Cells.Writes (front.slice fields) (front.slice values) first ∧
        Cells.Writes (back.slice fields) (back.slice values) second ∧ first ++ second = run := by
  have hlength : (front.slice values).length = (front.slice fields).length := by
    rw [front.length_slice hvalues, front.length_slice hfields]
  rw [← h.slice_append fields, ← h.slice_append values]
  exact Cells.writes_append hlength

/-- A cut between two properties splits the padding: what belongs in front goes to the first span, what
belongs behind to the second. -/
theorem Span.Adjoin.wrap_append {front back whole : Span} (h : Adjoin front back whole)
    (hpos : 0 < back.start) (hcut : front.stop < front.count) (padding : Padding) (first second : Bytes) :
    (padding.within front).wrap first ++ (padding.within back).wrap second =
      (padding.within whole).wrap (first ++ second) := by
  have hfront : front.isTail = false := beq_false_of_ne hcut.ne
  have hback : back.isHead = false := beq_false_of_ne hpos.ne'
  have hhead : front.isHead = whole.isHead := by rw [isHead, isHead, h.start_eq]
  have htail : back.isTail = whole.isTail := by rw [isTail, isTail, h.stop_eq, h.back_count_eq]
  simp [Padding.wrap, Padding.within, hfront, hback, hhead, htail]

namespace KeyLayout

variable {layout : KeyLayout}

/-- Part of a key that is not bare is the run of its values between the padding that belongs to it. -/
theorem encode_eq_ok_of_not_bare (hbare : layout.bare? = none) {bounds : Bounds} {span : Span}
    (hspan : layout.resolve bounds = .ok span) {values : List Value} {part : Bytes} :
    layout.encode values bounds = .ok part ↔
      (span.stop ≤ values.length ∧ span.stop ≤ layout.fields.length) ∧
        ∃ run, Cells.Writes (span.slice layout.fields) (span.slice values) run ∧
          (layout.padding.within span).wrap run = part := by
  rw [encode_of_resolve hspan, encodeSpan_eq_ok]
  constructor
  · intro h
    rcases h with ⟨hvalues, hfields, stored, hstored, hwritten⟩
    rcases hwritten.run_of_not_bare hbare with ⟨run, hrun, rfl⟩
    exact ⟨⟨hvalues, hfields⟩, run, ⟨stored, hstored, hrun⟩, rfl⟩
  · intro h
    rcases h with ⟨⟨hvalues, hfields⟩, run, ⟨stored, hstored, hrun⟩, rfl⟩
    exact ⟨hvalues, hfields, stored, hstored, Written.cells hbare hrun⟩

/-- A piece of a key of several fields begins at one of them. -/
theorem resolve_between (hfields : 2 ≤ layout.fields.length) {start stop : Nat} (hle : start ≤ stop)
    (hstart : start < layout.fields.length) (hstop : stop ≤ layout.fields.length) :
    layout.resolve (.between start stop) = .ok ⟨start, stop, layout.fields.length, hle, hstop⟩ := by
  have hmany : layout.fields.length ≠ 1 := by omega
  have hin : ¬ layout.fields.length ≤ start := by omega
  have hwithin : ¬ layout.fields.length < stop := by omega
  have horder : ¬ stop < start := by omega
  simp [resolve, hmany, Span.resolve, Bounds.between, Bound.first?, Bound.behind?, hin, hwithin, horder]

/-- A piece that ends the key is the two pieces that a cut between two fields makes of it. -/
theorem encode_split (hfields : 2 ≤ layout.fields.length) {start cut : Nat} (hle : start ≤ cut)
    (hpos : 0 < cut) (hcut : cut < layout.fields.length) {values : List Value} {whole : Bytes} :
    layout.encode values (.between start layout.fields.length) = .ok whole ↔
      ∃ part rest, layout.encode values (.between start cut) = .ok part ∧
        layout.encode values (.between cut layout.fields.length) = .ok rest ∧ part ++ rest = whole := by
  have hbare := bare?_of_lt hpos hcut
  have hwhole := resolve_between hfields (hle.trans hcut.le) (hle.trans_lt hcut) (Nat.le_refl _)
  have hpart := resolve_between hfields hle (hle.trans_lt hcut) hcut.le
  have hrest := resolve_between hfields hcut.le hcut (Nat.le_refl _)
  have hadjoin : Span.Adjoin ⟨start, cut, layout.fields.length, hle, hcut.le⟩
      ⟨cut, layout.fields.length, layout.fields.length, hcut.le, Nat.le_refl _⟩
      ⟨start, layout.fields.length, layout.fields.length, hle.trans hcut.le, Nat.le_refl _⟩ :=
    ⟨rfl, rfl, rfl, rfl, rfl⟩
  have hwrap := hadjoin.wrap_append hpos hcut layout.padding
  simp only [encode_eq_ok_of_not_bare hbare hwhole, encode_eq_ok_of_not_bare hbare hpart,
    encode_eq_ok_of_not_bare hbare hrest]
  constructor
  · intro h
    rcases h with ⟨⟨hvalues, -⟩, run, hrun, rfl⟩
    rcases (hadjoin.writes_iff hcut.le (hcut.le.trans hvalues)).mp hrun with
      ⟨first, second, hfirst, hsecond, rfl⟩
    exact ⟨_, _, ⟨⟨hcut.le.trans hvalues, hcut.le⟩, first, hfirst, rfl⟩,
      ⟨⟨hvalues, Nat.le_refl _⟩, second, hsecond, rfl⟩, hwrap first second⟩
  · intro h
    rcases h with ⟨_, _, ⟨⟨hcutValues, -⟩, first, hfirst, rfl⟩, ⟨⟨hvalues, -⟩, second, hsecond, rfl⟩, rfl⟩
    exact ⟨⟨hvalues, Nat.le_refl _⟩, first ++ second,
      (hadjoin.writes_iff hcut.le hcutValues).mpr ⟨first, second, hfirst, hsecond, rfl⟩,
      (hwrap first second).symm⟩

/-- The parts that are written for bounds, in order. -/
def Parts (layout : KeyLayout) (values : List Value) (bounds : List Bounds) (parts : List Bytes) : Prop :=
  List.Forall₂ (fun piece part => layout.encode values piece = .ok part) bounds parts

theorem parts_nil {values : List Value} {parts : List Bytes} : layout.Parts values [] parts ↔ parts = [] :=
  List.forall₂_nil_left_iff

/-- The part for the first bounds and those for the others. -/
theorem parts_cons {values : List Value} {piece : Bounds} {bounds : List Bounds} {parts : List Bytes} :
    layout.Parts values (piece :: bounds) parts ↔
      ∃ part rest, layout.encode values piece = .ok part ∧ layout.Parts values bounds rest ∧
        parts = part :: rest :=
  List.forall₂_cons_left_iff

/-- There are parts for all bounds when there is one for each. -/
theorem exists_parts_iff {values : List Value} {bounds : List Bounds} :
    (∃ parts, layout.Parts values bounds parts) ↔
      ∀ piece ∈ bounds, ∃ part, layout.encode values piece = .ok part := by
  induction bounds with
  | nil => simp [parts_nil]
  | cons piece bounds ih =>
    rw [List.forall_mem_cons, ← ih]
    constructor
    · intro h
      rcases h with ⟨parts, hparts⟩
      rcases parts_cons.mp hparts with ⟨part, rest, hpart, hrest, -⟩
      exact ⟨⟨part, hpart⟩, rest, hrest⟩
    · intro h
      rcases h with ⟨⟨part, hpart⟩, rest, hrest⟩
      exact ⟨part :: rest, parts_cons.mpr ⟨part, rest, hpart, hrest, rfl⟩⟩

/-- A piece that ends the key is the pieces that any cuts make of it. -/
theorem encode_pieces (hfields : 2 ≤ layout.fields.length) {start : Nat} {cuts : List Nat}
    (hsorted : (start :: cuts).Pairwise (· ≤ ·))
    (hcuts : ∀ cut ∈ cuts, 0 < cut ∧ cut < layout.fields.length) {values : List Value} {whole : Bytes} :
    layout.encode values (.between start layout.fields.length) = .ok whole ↔
      ∃ parts, layout.Parts values (Bounds.pieces start cuts layout.fields.length) parts ∧
        parts.flatten = whole := by
  induction cuts generalizing start whole with
  | nil => simp [Bounds.pieces, parts_cons, parts_nil]
  | cons cut cuts ih =>
    rcases List.pairwise_cons.mp hsorted with ⟨hfirst, hothers⟩
    rcases List.forall_mem_cons.mp hcuts with ⟨⟨hpos, hcut⟩, hcuts⟩
    rw [encode_split hfields (hfirst cut List.mem_cons_self) hpos hcut]
    constructor
    · intro h
      rcases h with ⟨part, rest, hpart, hrest, rfl⟩
      rcases (ih hothers hcuts).mp hrest with ⟨parts, hparts, rfl⟩
      exact ⟨part :: parts, parts_cons.mpr ⟨part, parts, hpart, hparts, rfl⟩, by simp⟩
    · intro h
      rcases h with ⟨_, hall, rfl⟩
      rcases parts_cons.mp hall with ⟨part, parts, hpart, hparts, rfl⟩
      exact ⟨part, parts.flatten, hpart, (ih hothers hcuts).mpr ⟨parts, hparts, rfl⟩, by simp⟩

/-- A key of several fields is the pieces that any cuts make of it. -/
theorem encode_all_pieces (hfields : 2 ≤ layout.fields.length) {cuts : List Nat}
    (hsorted : cuts.Pairwise (· ≤ ·)) (hcuts : ∀ cut ∈ cuts, 0 < cut ∧ cut < layout.fields.length)
    {values : List Value} {key : Bytes} :
    layout.encode values .all = .ok key ↔
      ∃ parts, layout.Parts values (Bounds.pieces 0 cuts layout.fields.length) parts ∧
        parts.flatten = key := by
  have hwhole := resolve_between hfields (Nat.zero_le _) (by omega) (Nat.le_refl _)
  have hsame : layout.encode values .all = layout.encode values (.between 0 layout.fields.length) :=
    (encode_of_resolve (resolve_all layout) values).trans (encode_of_resolve hwhole values).symm
  rw [hsame]
  exact encode_pieces hfields (List.pairwise_cons.mpr ⟨fun cut _ => Nat.zero_le cut, hsorted⟩) hcuts

/-- The key without padding around it. -/
def unpadded (layout : KeyLayout) : KeyLayout := { layout with padding := ⟨0, 0⟩ }

/-- A key is its cells, written without padding, between the padding. -/
theorem exists_unpadded (hfields : 2 ≤ layout.fields.length) {values : List Value} {key : Bytes}
    (h : layout.encode values .all = .ok key) :
    ∃ body, layout.unpadded.encode values .all = .ok body ∧ key = layout.padding.wrap body := by
  have hbare := @bare?_of_lt layout 1 Nat.one_pos hfields
  have hbare' := @bare?_of_lt layout.unpadded 1 Nat.one_pos hfields
  rcases (encode_eq_ok_of_not_bare hbare (resolve_all layout)).mp h with ⟨hstop, run, hrun, rfl⟩
  refine ⟨run, ?_, ?_⟩
  · refine (encode_eq_ok_of_not_bare hbare' (resolve_all layout.unpadded)).mpr ⟨hstop, run, hrun, ?_⟩
    simp [unpadded, Padding.within, Padding.wrap, Span.head, Span.isHead, Span.isTail]
  · simp [Padding.within, Span.head, Span.isHead, Span.isTail]

/-- A key of several fields, cut into pieces between its fields in any way, is written when all pieces are.
The pieces put together are the key, and it has its padding once: they are the pieces without padding, put
together between the padding. -/
theorem encode_whole_iff_pieces (hfields : 2 ≤ layout.fields.length) {cuts : List Nat}
    (hsorted : cuts.Pairwise (· ≤ ·)) (hcuts : ∀ cut ∈ cuts, 0 < cut ∧ cut < layout.fields.length)
    (values : List Value) :
    ((∃ key, layout.encode values .all = .ok key) ↔
        ∀ piece ∈ Bounds.pieces 0 cuts layout.fields.length,
          ∃ part, layout.encode values piece = .ok part) ∧
      ∀ parts, layout.Parts values (Bounds.pieces 0 cuts layout.fields.length) parts →
        layout.encode values .all = .ok parts.flatten ∧
        ∃ bodies, layout.unpadded.Parts values (Bounds.pieces 0 cuts layout.fields.length) bodies ∧
          parts.flatten = layout.padding.wrap bodies.flatten := by
  have hkey : ∀ key, layout.encode values .all = .ok key ↔
      ∃ parts, layout.Parts values (Bounds.pieces 0 cuts layout.fields.length) parts ∧
        parts.flatten = key := fun key => encode_all_pieces hfields hsorted hcuts
  constructor
  · rw [← exists_parts_iff]
    constructor
    · intro h
      rcases h with ⟨key, hencode⟩
      rcases (hkey key).mp hencode with ⟨parts, hparts, -⟩
      exact ⟨parts, hparts⟩
    · intro h
      rcases h with ⟨parts, hparts⟩
      exact ⟨parts.flatten, (hkey _).mpr ⟨parts, hparts, rfl⟩⟩
  · intro parts hparts
    have hencode := (hkey _).mpr ⟨parts, hparts, rfl⟩
    rcases exists_unpadded hfields hencode with ⟨body, hbody, hwrap⟩
    rcases (@encode_all_pieces layout.unpadded hfields cuts hsorted hcuts values body).mp hbody with
      ⟨bodies, hbodies, rfl⟩
    exact ⟨hencode, bodies, hbodies, hwrap⟩

/-- A key with a tag and a level, cut twice between its fields. -/
theorem pieces_tagAndLevel :
    tagAndLevel.encode [.of .bytes [0, 9], .of (.signed .w16) 5] .all =
        .ok [0, 0xFE, 0xFF, 0xFE, 0xF6, 0xFF, 0xFF, 0x80, 0x05, 0] ∧
      ∃ bodies,
        tagAndLevel.unpadded.Parts [.of .bytes [0, 9], .of (.signed .w16) 5]
          [.between 0 1, .between 1 1, .between 1 2] bodies ∧
        [0, 0xFE, 0xFF, 0xFE, 0xF6, 0xFF, 0xFF, 0x80, 0x05, 0] =
          tagAndLevel.padding.wrap bodies.flatten := by
  have hfields : 2 ≤ tagAndLevel.fields.length := by decide
  have hsorted : [1, 1].Pairwise (· ≤ ·) := by decide
  have hcuts : ∀ cut ∈ [1, 1], 0 < cut ∧ cut < tagAndLevel.fields.length := by decide
  have hparts : tagAndLevel.Parts [.of .bytes [0, 9], .of (.signed .w16) 5]
      [.between 0 1, .between 1 1, .between 1 2]
      [[0, 0xFE, 0xFF, 0xFE, 0xF6, 0xFF, 0xFF], [], [0x80, 0x05, 0]] := by
    refine List.Forall₂.cons ?_ (List.Forall₂.cons ?_ (List.Forall₂.cons ?_ List.Forall₂.nil))
    · decide
    · decide
    · decide
  exact (encode_whole_iff_pieces hfields hsorted hcuts _).2 _ hparts

end KeyLayout
end RecordBytes
