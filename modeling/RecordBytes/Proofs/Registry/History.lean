import Mathlib
import RecordBytes.Proofs.Fault.Outcome
import RecordBytes.Registry

/-!
# What a registry hands out, by its history

A registry keeps shelves, and on every request it looks at them and perhaps changes them.  Seen from outside it
is a map from record types and paddings to formats, and the map can be told from the requests alone: since the
last clearing, the first request for a pair whose schema has a format is the one whose format is kept for the
pair.  Later requests are served with that very format, whatever schema they come with.

Main definitions:

- `Registry.Request`, `Registry.Reply`, `Registry.serve`: single requests and runs of them.
- `Registry.offers`, `Registry.kept`, `Registry.pairs`: the map, told from the requests.
- `Registry.settled`: the reply that a history settles.
- `Registry.Follows`: a registry that keeps what its history tells.

Main results:

- `Registry.serve_getOrBuild`: all that a request for a format can do.
- `Registry.Follows.serve`, `Registry.follows_after`: one request, and any run of them.
- `Registry.first_build_kept`: all replies of any run.
-/

namespace RecordBytes

/-! ## Tables -/

namespace Table

variable {κ α : Type} [BEq κ] [LawfulBEq κ] [DecidableEq κ]

/-- Looking up a key at the front of a table. -/
theorem lookup_cons (key place : κ) (value : α) (rest : Table κ α) :
    List.lookup key ((place, value) :: rest) = if key = place then some value else rest.lookup key := by
  rw [List.lookup_cons]
  by_cases h : key = place
  · rw [h, beq_self_eq_true, if_pos rfl]
  · rw [beq_eq_false_iff_ne.mpr h, if_neg h]

/-- What was put under a key is found under it, and nothing else changes. -/
theorem lookup_put (key other : κ) (value : α) (table : Table κ α) :
    (table.put key value).lookup other = if other = key then some value else table.lookup other := by
  induction table with
  | nil => exact lookup_cons other key value []
  | cons first rest ih =>
    rcases first with ⟨place, kept⟩
    simp only [put, beq_iff_eq]
    by_cases hplace : key = place
    · subst hplace
      rw [if_pos rfl, lookup_cons, lookup_cons]
      split <;> rfl
    · rw [if_neg hplace, lookup_cons, lookup_cons, ih]
      by_cases hother : other = place
      · subst hother
        rw [if_pos rfl, if_pos rfl, if_neg (Ne.symm hplace)]
      · rw [if_neg hother, if_neg hother]

/-- A weight of the values that are kept changes by what is put and what it replaces. -/
theorem sum_put (weight : α → Nat) (key : κ) (value : α) (table : Table κ α) :
    ((table.put key value).map fun entry => weight entry.2).sum + ((table.lookup key).map weight).getD 0 =
      (table.map fun entry => weight entry.2).sum + weight value := by
  induction table with
  | nil => simp [put]
  | cons first rest ih =>
    rcases first with ⟨place, kept⟩
    simp only [put, beq_iff_eq, lookup_cons]
    by_cases hplace : key = place
    · simp only [if_pos hplace, List.map_cons, List.sum_cons, Option.map_some, Option.getD_some]
      omega
    · simp only [if_neg hplace, List.map_cons, List.sum_cons]
      omega

/-- A value under a new key is one more. -/
theorem length_put {key : κ} {table : Table κ α} (h : table.lookup key = none) (value : α) :
    (table.put key value).length = table.length + 1 := by
  have hsum := sum_put (fun _ => 1) key value table
  simpa [h] using hsum

end Table

namespace Registry

variable {registry : Registry} {number : Nat → Nat}

/-! ## Requests -/

/-- A request to a registry. -/
inductive Request
  | get (typeName : String) (padding : RecordPadding)
  | getOrBuild (typeName : String) (schema : Schema) (padding : RecordPadding)
  | size
  | isEmpty
  | clear

/-- What a request is answered with. -/
inductive Reply
  | found (entry : Option Registered)
  | handedOut (entry : Except Fault Registered)
  | count (number : Nat)
  | decided (verdict : Bool)
  | done

/-- The reply to a request, and the registry after it. -/
def serve (registry : Registry) : Request → Reply × Registry
  | .get typeName padding => (.found (registry.get? typeName padding), registry)
  | .getOrBuild typeName schema padding =>
    match registry.getOrBuild typeName schema padding with
    | .ok (entry, after) => (.handedOut (.ok entry), after)
    | .error fault => (.handedOut (.error fault), registry)
  | .size => (.count registry.size, registry)
  | .isEmpty => (.decided registry.isEmpty, registry)
  | .clear => (.done, registry.clear)

/-- The registry after some requests, one after another. -/
def after (registry : Registry) : List Request → Registry
  | [] => registry
  | request :: requests => (registry.serve request).2.after requests

/-- The record type and the padding that a request names. -/
def Request.pair? : Request → Option (String × RecordPadding)
  | .get typeName padding => some (typeName, padding)
  | .getOrBuild typeName _ padding => some (typeName, padding)
  | .size | .isEmpty | .clear => none

/-- The format in a reply. -/
def Reply.given? : Reply → Option Registered
  | .found entry => entry
  | .handedOut (.ok entry) => some entry
  | .handedOut (.error _) | .count _ | .decided _ | .done => none

theorem after_append (registry : Registry) (first second : List Request) :
    registry.after (first ++ second) = (registry.after first).after second := by
  induction first generalizing registry with
  | nil => rfl
  | cons request requests ih => exact ih _

/-! ## Histories -/

/-- Whether a request makes the registry forget what it keeps. -/
def Request.clears : Request → Bool
  | .clear => true
  | .get .. | .getOrBuild .. | .size | .isEmpty => false

/-- What a request with `before` others in front of it offers to be kept: the format that its schema has, if it
has one, for the record type and padding that it names. -/
def Request.offer? (before : Nat) : Request → Option ((String × RecordPadding) × (Nat × RecordFormat))
  | .getOrBuild typeName schema padding =>
    match RecordFormat.build typeName schema padding with
    | .ok format => some ((typeName, padding), (before, format))
    | .error _ => none
  | .get .. | .size | .isEmpty | .clear => none

/-- What was offered since the last clearing, the oldest offer first. -/
def offers (past : List Request) : Table (String × RecordPadding) (Nat × RecordFormat) :=
  (past.zipIdx.rtakeWhile fun (request, _) => !request.clears).filterMap
    fun (request, before) => request.offer? before

/-- The format that a history leaves for a record type and padding: the one that was offered first, with the
number that formats have by the request that they were built for. -/
def kept (number : Nat → Nat) (past : List Request) (pair : String × RecordPadding) : Option Registered :=
  ((offers past).lookup pair).map fun (before, format) => ⟨number before, format⟩

/-- The record types and paddings that a history leaves a format for. -/
def pairs (past : List Request) : Finset (String × RecordPadding) :=
  ((offers past).map Prod.fst).toFinset

/-- The reply to a request behind a history, told from the history alone. -/
def settled (number : Nat → Nat) (past : List Request) : Request → Reply
  | .get typeName padding => .found (kept number past (typeName, padding))
  | .getOrBuild typeName schema padding =>
    match kept number past (typeName, padding) with
    | some entry => .handedOut (.ok entry)
    | none => .handedOut ((RecordFormat.build typeName schema padding).map (⟨number past.length, ·⟩))
  | .size => .count (pairs past).card
  | .isEmpty => .decided (decide (pairs past = ∅))
  | .clear => .done

theorem offers_append (past : List Request) (request : Request) :
    offers (past ++ [request]) =
      if request.clears then [] else offers past ++ (request.offer? past.length).toList := by
  simp only [offers, List.zipIdx_append, List.zipIdx_singleton, List.rtakeWhile_concat, Nat.zero_add]
  cases request.clears with
  | true => rfl
  | false =>
    simp only [Bool.not_false, if_true, Bool.false_eq_true, if_false, List.filterMap_append]
    congr 1

/-- What is found in a single offer was built by that request. -/
theorem eq_of_lookup_offer {request : Request} {position before : Nat} {pair : String × RecordPadding}
    {format : RecordFormat} (h : (request.offer? position).toList.lookup pair = some (before, format)) :
    before = position ∧ ∃ schema, request = .getOrBuild pair.1 schema pair.2 ∧
      RecordFormat.build pair.1 schema pair.2 = .ok format := by
  cases request with
  | get | size | isEmpty | clear => cases h
  | getOrBuild typeName schema padding =>
    cases hbuild : RecordFormat.build typeName schema padding with
    | error fault =>
      simp only [Request.offer?, hbuild] at h
      cases h
    | ok built =>
      simp only [Request.offer?, hbuild, Option.toList_some, Table.lookup_cons] at h
      split at h
      · next hpair =>
        cases hpair
        cases h
        exact ⟨rfl, schema, rfl, hbuild⟩
      · cases h

/-- A request that offers nothing leaves the map as it is. -/
theorem offers_append_of_idle {past : List Request} {request : Request} (hclears : request.clears = false)
    (hoffer : request.offer? past.length = none) : offers (past ++ [request]) = offers past := by
  rw [offers_append, hclears, hoffer]
  exact List.append_nil _

theorem mem_pairs {past : List Request} {pair : String × RecordPadding} :
    pair ∈ pairs past ↔ ((offers past).lookup pair).isSome := by
  rw [List.lookup_isSome_iff]
  simp only [pairs, List.mem_toFinset, List.mem_map, beq_iff_eq]
  constructor
  · rintro ⟨offer, hmem, heq⟩
    exact ⟨offer, hmem, heq.symm⟩
  · rintro ⟨offer, hmem, heq⟩
    exact ⟨offer, hmem, heq.symm⟩

theorem kept_eq_none {past : List Request} {pair : String × RecordPadding} :
    kept number past pair = none ↔ (offers past).lookup pair = none :=
  Option.map_eq_none_iff

/-- An offer for a pair that has a format changes nothing. -/
theorem kept_append_of_kept {past : List Request} {pair : String × RecordPadding} {entry : Registered}
    (h : kept number past pair = some entry) (offer : Nat × RecordFormat) (other : String × RecordPadding) :
    (offers past ++ [(pair, offer)]).lookup other = (offers past).lookup other := by
  rw [List.lookup_append, Table.lookup_cons]
  by_cases hother : other = pair
  · rcases Option.map_eq_some_iff.mp h with ⟨found, hfound, -⟩
    rw [hother, hfound]
    rfl
  · rw [if_neg hother, List.lookup_nil, Option.or_none]

/-! ## What a request can do -/

theorem shelf_put (registry : Registry) (typeName other : String) (shelf : Table RecordPadding Registered) :
    ({ registry with shelves := registry.shelves.put typeName shelf } : Registry).shelf other =
      if other = typeName then shelf else registry.shelf other := by
  unfold Registry.shelf
  rw [Table.lookup_put]
  by_cases h : other = typeName
  · rw [if_pos h, if_pos h, Option.getD_some]
  · rw [if_neg h, if_neg h]

/-- Where no other format was kept meanwhile, the new one goes on the shelf of its record type. -/
theorem keep_of_none {typeName : String} {padding : RecordPadding} (h : registry.get? typeName padding = none)
    (entry : Registered) : registry.keep typeName padding entry =
      (entry, { registry with
        shelves := registry.shelves.put typeName ((registry.shelf typeName).put padding entry) }) := by
  unfold keep
  rw [h]

/-- A new format is kept for its record type and padding; what is kept for others stays. -/
theorem get?_keep {typeName : String} {padding : RecordPadding} (h : registry.get? typeName padding = none)
    (entry : Registered) (other : String) (otherPadding : RecordPadding) :
    (registry.keep typeName padding entry).2.get? other otherPadding =
      if (other, otherPadding) = (typeName, padding) then some entry
      else registry.get? other otherPadding := by
  rw [keep_of_none h]
  unfold get?
  rw [shelf_put]
  by_cases hother : other = typeName
  · rw [if_pos hother, Table.lookup_put, hother]
    by_cases hpadding : otherPadding = padding
    · rw [if_pos hpadding, if_pos (by rw [hpadding])]
    · rw [if_neg hpadding, if_neg (by simp [hpadding])]
  · rw [if_neg hother, if_neg (by simp [hother])]

/-- A new format is one more. -/
theorem size_keep {typeName : String} {padding : RecordPadding} (h : registry.get? typeName padding = none)
    (entry : Registered) : (registry.keep typeName padding entry).2.size = registry.size + 1 := by
  have hsum := Table.sum_put List.length typeName ((registry.shelf typeName).put padding entry) registry.shelves
  have hshelf : ((registry.shelves.lookup typeName).map List.length).getD 0 =
      (registry.shelf typeName).length := by
    unfold shelf
    cases registry.shelves.lookup typeName <;> rfl
  rw [hshelf, Table.length_put h] at hsum
  rw [keep_of_none h]
  exact Nat.add_right_cancel (hsum.trans (Nat.add_right_comm registry.size 1 _).symm)

/-- All that a request for a format can do: hand out the one that is kept, refuse, or keep a new one under a
number that no format has had, which changes nothing for other record types and paddings. -/
theorem serve_getOrBuild (registry : Registry) (typeName : String) (schema : Schema) (padding : RecordPadding) :
    (∃ entry, registry.get? typeName padding = some entry ∧
      registry.serve (.getOrBuild typeName schema padding) = (.handedOut (.ok entry), registry)) ∨
    (∃ fault, registry.get? typeName padding = none ∧
      RecordFormat.build typeName schema padding = .error fault ∧
      registry.serve (.getOrBuild typeName schema padding) = (.handedOut (.error fault), registry)) ∨
    ∃ format after, registry.get? typeName padding = none ∧
      RecordFormat.build typeName schema padding = .ok format ∧
      registry.serve (.getOrBuild typeName schema padding) =
        (.handedOut (.ok ⟨registry.built, format⟩), after) ∧
      after.built = registry.built + 1 ∧ after.size = registry.size + 1 ∧
      ∀ other otherPadding, after.get? other otherPadding =
        if (other, otherPadding) = (typeName, padding) then some ⟨registry.built, format⟩
        else registry.get? other otherPadding := by
  cases hkept : registry.get? typeName padding with
  | some entry =>
    have hrun : registry.getOrBuild typeName schema padding = .ok (entry, registry) := by
      unfold getOrBuild
      rw [hkept]
    exact Or.inl ⟨entry, rfl, by simp only [serve, hrun]⟩
  | none =>
    cases hbuild : RecordFormat.build typeName schema padding with
    | error fault =>
      have hrun : registry.getOrBuild typeName schema padding = .error fault := by
        unfold getOrBuild
        rw [hkept, hbuild]
        rfl
      exact Or.inr (Or.inl ⟨fault, rfl, rfl, by simp only [serve, hrun]⟩)
    | ok format =>
      have hrun : registry.getOrBuild typeName schema padding =
          .ok ({ registry with built := registry.built + 1 }.keep typeName padding ⟨registry.built, format⟩) := by
        unfold getOrBuild
        rw [hkept, hbuild]
        rfl
      have hnone : ({ registry with built := registry.built + 1 } : Registry).get? typeName padding = none := hkept
      have hget := get?_keep hnone ⟨registry.built, format⟩
      have hsize := size_keep hnone ⟨registry.built, format⟩
      rw [keep_of_none hnone] at hrun hget hsize
      exact Or.inr (Or.inr ⟨format, _, rfl, rfl, by simp only [serve, hrun], rfl, hsize, hget⟩)

/-! ## What a registry keeps -/

/-- The registry keeps what the history tells, and as many formats as it tells of. -/
structure Follows (registry : Registry) (number : Nat → Nat) (past : List Request) : Prop where
  get?_eq : ∀ typeName padding, registry.get? typeName padding = kept number past (typeName, padding)
  size_eq : registry.size = (pairs past).card

theorem follows_empty (number : Nat → Nat) : Follows empty number [] where
  get?_eq _ _ := rfl
  size_eq := rfl

namespace Follows

variable {past : List Request}

/-- A request that neither clears nor offers anything leaves the registry in step. -/
theorem idle (h : registry.Follows number past) {request : Request} (hclears : request.clears = false)
    (hoffer : request.offer? past.length = none) : registry.Follows number (past ++ [request]) := by
  have hoffers := offers_append_of_idle hclears hoffer
  refine ⟨?_, ?_⟩
  · intro typeName padding
    rw [h.get?_eq, kept, kept, hoffers]
  · rw [h.size_eq, pairs, pairs, hoffers]

/-- A request for a pair that has a format leaves the registry in step, whatever it offers. -/
theorem hit (h : registry.Follows number past) {typeName : String} {padding : RecordPadding}
    {entry : Registered} (hkept : registry.get? typeName padding = some entry) (schema : Schema) :
    registry.Follows number (past ++ [.getOrBuild typeName schema padding]) := by
  cases hbuild : RecordFormat.build typeName schema padding with
  | error fault => exact h.idle rfl (by simp only [Request.offer?, hbuild])
  | ok format =>
    rw [h.get?_eq] at hkept
    have hoffers : offers (past ++ [.getOrBuild typeName schema padding]) =
        offers past ++ [((typeName, padding), (past.length, format))] := by
      rw [offers_append]
      simp only [Request.clears, Request.offer?, hbuild, Bool.false_eq_true, if_false, Option.toList_some]
    have hlookup := kept_append_of_kept hkept (past.length, format)
    have hpairs : pairs (past ++ [.getOrBuild typeName schema padding]) = pairs past := by
      ext pair
      rw [mem_pairs, mem_pairs, hoffers, hlookup]
    refine ⟨?_, ?_⟩
    · intro other otherPadding
      rw [h.get?_eq, kept, kept, hoffers, hlookup]
    · rw [h.size_eq, hpairs]

/-- A request that has a format built leaves the registry in step, with one more pair that has a format. -/
theorem miss (h : registry.Follows number past) (hnumber : number past.length = registry.built)
    {typeName : String} {schema : Schema} {padding : RecordPadding} {format : RecordFormat} {after : Registry}
    (hkept : registry.get? typeName padding = none)
    (hbuild : RecordFormat.build typeName schema padding = .ok format)
    (hsize : after.size = registry.size + 1)
    (hget : ∀ other otherPadding, after.get? other otherPadding =
      if (other, otherPadding) = (typeName, padding) then some ⟨registry.built, format⟩
      else registry.get? other otherPadding) :
    after.Follows number (past ++ [.getOrBuild typeName schema padding]) := by
  rw [h.get?_eq, kept_eq_none] at hkept
  have hoffers : offers (past ++ [.getOrBuild typeName schema padding]) =
      offers past ++ [((typeName, padding), (past.length, format))] := by
    rw [offers_append]
    simp only [Request.clears, Request.offer?, hbuild, Bool.false_eq_true, if_false, Option.toList_some]
  refine ⟨?_, ?_⟩
  · intro other otherPadding
    rw [hget, kept, hoffers, List.lookup_append, Table.lookup_cons]
    by_cases hpair : (other, otherPadding) = (typeName, padding)
    · rw [if_pos hpair, if_pos hpair, hpair, hkept, ← hnumber]
      rfl
    · rw [if_neg hpair, if_neg hpair, List.lookup_nil, Option.or_none, h.get?_eq]
      rfl
  · have hnew : (typeName, padding) ∉ pairs past := by
      rw [mem_pairs, hkept]
      exact Bool.false_ne_true
    have hpairs : pairs (past ++ [.getOrBuild typeName schema padding]) =
        insert (typeName, padding) (pairs past) := by
      unfold pairs
      rw [hoffers, List.map_append, List.toFinset_append, Finset.union_comm]
      rfl
    rw [hsize, h.size_eq, hpairs, Finset.card_insert_of_notMem hnew]

/-- One request: the reply is settled by the history, and the registry stays in step with it. -/
theorem serve (h : registry.Follows number past) (hnumber : number past.length = registry.built)
    (request : Request) :
    (registry.serve request).1 = settled number past request ∧
      (registry.serve request).2.Follows number (past ++ [request]) := by
  cases request with
  | get typeName padding => exact ⟨congrArg Reply.found (h.get?_eq typeName padding), h.idle rfl rfl⟩
  | getOrBuild typeName schema padding =>
    have hkept := h.get?_eq typeName padding
    simp only [settled, ← hkept]
    rcases serve_getOrBuild registry typeName schema padding with
      ⟨entry, hentry, hrun⟩ | ⟨fault, hnone, hbuild, hrun⟩ | ⟨format, after, hnone, hbuild, hrun, -, hsize, hget⟩
    · rw [hrun, hentry]
      exact ⟨rfl, h.hit hentry schema⟩
    · rw [hrun, hnone, hbuild]
      exact ⟨rfl, h.idle rfl (by simp only [Request.offer?, hbuild])⟩
    · rw [hrun, hnone, hbuild, hnumber]
      exact ⟨rfl, h.miss hnumber hnone hbuild hsize hget⟩
  | size => exact ⟨congrArg Reply.count h.size_eq, h.idle rfl rfl⟩
  | isEmpty =>
    have hempty : registry.isEmpty = decide (pairs past = ∅) := by
      rw [Bool.eq_iff_iff, isEmpty, h.size_eq, beq_iff_eq, decide_eq_true_iff, Finset.card_eq_zero]
    exact ⟨congrArg Reply.decided hempty, h.idle rfl rfl⟩
  | clear =>
    have hoffers : offers (past ++ [.clear]) = [] := by
      rw [offers_append]
      rfl
    refine ⟨rfl, ?_, ?_⟩
    · intro typeName padding
      rw [kept, hoffers]
      rfl
    · rw [pairs, hoffers]
      rfl

/-- A request with the first offer for its record type and padding builds a format. -/
theorem built_serve (h : registry.Follows number past) {request : Request} {pair : String × RecordPadding}
    {position before : Nat} {format : RecordFormat} (hnone : (offers past).lookup pair = none)
    (hoffer : (request.offer? position).toList.lookup pair = some (before, format)) :
    (registry.serve request).2.built = registry.built + 1 := by
  have hkept := h.get?_eq pair.1 pair.2
  rw [kept_eq_none.mpr hnone] at hkept
  rcases eq_of_lookup_offer hoffer with ⟨-, schema, rfl, hbuild⟩
  rcases serve_getOrBuild registry pair.1 schema pair.2 with
    ⟨entry, hentry, -⟩ | ⟨fault, -, hfault, -⟩ | ⟨built, after, -, -, hrun, hbuilt, -⟩
  · rw [hkept] at hentry
    cases hentry
  · rw [hbuild] at hfault
    cases hfault
  · rw [hrun, hbuilt]

end Follows

/-! ## Numbers -/

/-- The number that a format gets when it is built for the request behind the first `before` ones of a run: that
of formats built until then. -/
def numberIn (requests : List Request) (before : Nat) : Nat :=
  (empty.after (requests.take before)).built

theorem numberIn_eq_built {past requests : List Request} (h : past <+: requests) :
    numberIn requests past.length = (empty.after past).built := by
  rw [numberIn, ← List.prefix_iff_eq_take.mp h]

/-- A registry stays in step with its history on any run. -/
theorem follows_after {past requests : List Request} (h : past <+: requests) :
    (empty.after past).Follows (numberIn requests) past := by
  induction past using List.reverseRecOn with
  | nil => exact follows_empty _
  | append_singleton past request ih =>
    have hpast : past <+: requests := (List.prefix_append past [request]).trans h
    rw [after_append]
    exact ((ih hpast).serve (numberIn_eq_built hpast) request).2

theorem built_le_serve (registry : Registry) (request : Request) :
    registry.built ≤ (registry.serve request).2.built := by
  cases request with
  | get | size | isEmpty | clear => exact Nat.le_refl _
  | getOrBuild typeName schema padding =>
    rcases serve_getOrBuild registry typeName schema padding with
      ⟨entry, -, hrun⟩ | ⟨fault, -, -, hrun⟩ | ⟨format, after, -, -, hrun, hbuilt, -⟩
    · rw [hrun]
    · rw [hrun]
    · rw [hrun]
      exact hbuilt ▸ Nat.le_succ _

theorem built_le_after (registry : Registry) (requests : List Request) :
    registry.built ≤ (registry.after requests).built := by
  induction requests generalizing registry with
  | nil => exact Nat.le_refl _
  | cons request requests ih => exact (built_le_serve registry request).trans (ih _)

theorem numberIn_mono (requests : List Request) {before later : Nat} (h : before ≤ later) :
    numberIn requests before ≤ numberIn requests later := by
  have hsplit : requests.take later = requests.take before ++ (requests.take later).drop before := by
    conv_lhs => rw [← List.take_append_drop before (requests.take later), List.take_take, Nat.min_eq_left h]
  rw [numberIn, numberIn, hsplit, after_append]
  exact built_le_after _ _

/-- The request that a kept format was built for took a number of its own. -/
theorem numberIn_lt_succ {past requests : List Request} (h : past <+: requests)
    {pair : String × RecordPadding} {before : Nat} {format : RecordFormat}
    (hkept : (offers past).lookup pair = some (before, format)) :
    numberIn requests before < numberIn requests (before + 1) := by
  induction past using List.reverseRecOn with
  | nil => cases hkept
  | append_singleton past request ih =>
    have hpast : past <+: requests := (List.prefix_append past [request]).trans h
    have hnumber := numberIn_eq_built hpast
    have hnext := numberIn_eq_built h
    rw [after_append, List.length_append] at hnext
    rw [offers_append] at hkept
    cases hclears : request.clears with
    | true =>
      rw [hclears] at hkept
      cases hkept
    | false =>
      rw [hclears, if_neg Bool.false_ne_true, List.lookup_append] at hkept
      cases hfound : (offers past).lookup pair with
      | some found =>
        rw [hfound] at hkept
        exact ih hpast (hfound.trans hkept)
      | none =>
        -- the last request offered what is kept, and there was nothing before: it built the format
        rw [hfound, Option.none_or] at hkept
        have hbuilt := (follows_after hpast).built_serve hfound hkept
        rcases eq_of_lookup_offer hkept with ⟨rfl, -⟩
        rw [hnumber, ← List.length_singleton, hnext]
        change _ < ((empty.after past).serve request).2.built
        rw [hbuilt]
        exact Nat.lt_succ_self _

/-- Two formats that a run kept have one number only if they were built for one request. -/
theorem numberIn_injOn (requests : List Request) :
    {before | ∃ past pair format, past <+: requests ∧ (offers past).lookup pair = some (before, format)}.InjOn
      (numberIn requests) := by
  have hlt : ∀ {past : List Request} {pair : String × RecordPadding} {before later : Nat} {format : RecordFormat},
      past <+: requests → (offers past).lookup pair = some (before, format) → before < later →
        numberIn requests before < numberIn requests later := by
    intro past pair before later format hpast hkept hbefore
    exact (numberIn_lt_succ hpast hkept).trans_le (numberIn_mono requests hbefore)
  rintro before ⟨past, pair, format, hpast, hkept⟩ other ⟨past', pair', format', hpast', hkept'⟩ hnumber
  rcases Nat.lt_trichotomy before other with hbefore | heq | hbehind
  · exact absurd hnumber (hlt hpast hkept hbefore).ne
  · exact heq
  · exact absurd hnumber.symm (hlt hpast' hkept' hbehind).ne

/-! ## What is handed out -/

/-- A format is identified by the record type and the padding that it was built for. -/
theorem identity_of_build {typeName : String} {schema : Schema} {padding : RecordPadding} {format : RecordFormat}
    (h : RecordFormat.build typeName schema padding = .ok format) : format.identity = (typeName, padding) := by
  simp only [RecordFormat.build, Outcome.bind_eq_ok, Outcome.pure_eq_ok] at h
  rcases h with ⟨keyFields, -, dataFields, -, allFields, -, rfl⟩
  rfl

/-- Formats are equal when they are for the same record type and padding. -/
theorem format_beq {left right : RecordFormat} (h : left.identity = right.identity) : left == right := by
  have hbeq : (left == right) = (left.identity == right.identity) := rfl
  rw [hbeq, h]
  exact beq_self_eq_true _

/-- What is kept for a pair was built for it. -/
theorem exists_build_of_kept {past : List Request} {pair : String × RecordPadding} {entry : Registered}
    (h : kept number past pair = some entry) :
    ∃ schema, RecordFormat.build pair.1 schema pair.2 = .ok entry.format := by
  rcases Option.map_eq_some_iff.mp h with ⟨⟨before, format⟩, hlookup, rfl⟩
  rcases List.lookup_eq_some_iff.mp hlookup with ⟨front, back, hoffers, -⟩
  have hmem : (pair, (before, format)) ∈ offers past := by
    rw [hoffers]
    exact List.mem_append_right _ List.mem_cons_self
  rcases List.mem_filterMap.mp hmem with ⟨⟨request, position⟩, -, hoffer⟩
  have hoffer : request.offer? position = some (pair, (before, format)) := hoffer
  have hfound : (request.offer? position).toList.lookup pair = some (before, format) := by
    rw [hoffer, Option.toList_some, Table.lookup_cons, if_pos rfl]
  rcases (eq_of_lookup_offer hfound).2 with ⟨schema, -, hbuild⟩
  exact ⟨schema, hbuild⟩

/-- Whatever is handed out was built for the pair that the request names. -/
theorem exists_build_of_settled {past : List Request} {request : Request} {entry : Registered}
    (h : (settled number past request).given? = some entry) :
    ∃ typeName schema padding, request.pair? = some (typeName, padding) ∧
      RecordFormat.build typeName schema padding = .ok entry.format := by
  cases request with
  | get typeName padding =>
    rcases exists_build_of_kept h with ⟨schema, hbuild⟩
    exact ⟨typeName, schema, padding, rfl, hbuild⟩
  | getOrBuild typeName schema padding =>
    unfold settled at h
    cases hkept : kept number past (typeName, padding) with
    | some found =>
      simp only [hkept] at h
      cases h
      rcases exists_build_of_kept hkept with ⟨schema, hbuild⟩
      exact ⟨typeName, schema, padding, rfl, hbuild⟩
    | none =>
      simp only [hkept] at h
      cases hbuild : RecordFormat.build typeName schema padding with
      | error fault =>
        rw [hbuild] at h
        cases h
      | ok format =>
        rw [hbuild] at h
        cases h
        exact ⟨typeName, schema, padding, rfl, hbuild⟩
  | size | isEmpty | clear => cases h

/-- What is kept stays until the registry is cleared, and a request changes nothing for pairs that it does not
name. -/
theorem get?_serve {request : Request} (hclears : request.clears = false) {typeName : String}
    {padding : RecordPadding}
    (h : registry.get? typeName padding ≠ none ∨ request.pair? ≠ some (typeName, padding)) :
    (registry.serve request).2.get? typeName padding = registry.get? typeName padding := by
  cases request with
  | get | size | isEmpty => rfl
  | clear => cases hclears
  | getOrBuild asked schema askedPadding =>
    rcases serve_getOrBuild registry asked schema askedPadding with
      ⟨entry, -, hrun⟩ | ⟨fault, -, -, hrun⟩ | ⟨format, after, hnone, -, hrun, -, -, hget⟩
    · rw [hrun]
    · rw [hrun]
    · rw [hrun, hget, if_neg]
      intro hpair
      cases hpair
      exact h.elim (fun hkept => hkept hnone) fun hother => hother rfl

/-- A request that is refused changes nothing. -/
theorem serve_of_refused {request : Request} {fault : Fault}
    (h : (registry.serve request).1 = .handedOut (.error fault)) : (registry.serve request).2 = registry := by
  cases request with
  | get | size | isEmpty | clear => cases h
  | getOrBuild typeName schema padding =>
    rcases serve_getOrBuild registry typeName schema padding with
      ⟨entry, -, hrun⟩ | ⟨_, -, -, hrun⟩ | ⟨format, after, -, -, hrun, -⟩
    · rw [hrun]
    · rw [hrun]
    · rw [hrun] at h
      cases h

/-- Every reply in every run of requests is settled by the requests alone.  A pair of record type and padding
has the format that was built for the first request since the last clearing whose schema has one, and no
other; from then on that format, with its number, is handed out whatever schema comes with a request, also one
that has no format.  Formats built for different requests have different numbers.  The registry counts the
different pairs that have a format and is empty when there are none.  What is handed out is for the record type
and the padding asked for, so it equals any format that can be built for them.  What is kept stays until the
registry is cleared, a request changes nothing for pairs that it does not name, and one that is refused changes
nothing at all. -/
theorem first_build_kept (requests : List Request) :
    ∃ number : Nat → Nat,
      {before | ∃ past pair format, past <+: requests ∧
        (offers past).lookup pair = some (before, format)}.InjOn number ∧
      ∀ past request, past ++ [request] <+: requests →
        ((empty.after past).serve request).1 = settled number past request ∧
        (∀ entry, ((empty.after past).serve request).1.given? = some entry →
          ∃ typeName padding, request.pair? = some (typeName, padding) ∧
            entry.format.typeName = typeName ∧ entry.format.padding = padding ∧
            ∀ schema format, RecordFormat.build typeName schema padding = .ok format → entry.format == format) ∧
        (∀ typeName padding, request.clears = false →
          (empty.after past).get? typeName padding ≠ none ∨ request.pair? ≠ some (typeName, padding) →
            (empty.after (past ++ [request])).get? typeName padding = (empty.after past).get? typeName padding) ∧
        ∀ fault, ((empty.after past).serve request).1 = .handedOut (.error fault) →
          empty.after (past ++ [request]) = empty.after past := by
  refine ⟨numberIn requests, numberIn_injOn requests, ?_⟩
  intro past request hrequest
  have hpast : past <+: requests := (List.prefix_append past [request]).trans hrequest
  have hreply := ((follows_after hpast).serve (numberIn_eq_built hpast) request).1
  have hnext : empty.after (past ++ [request]) = ((empty.after past).serve request).2 := after_append _ _ _
  rw [hnext]
  refine ⟨hreply, ?_, fun typeName padding hclears => get?_serve hclears, fun fault => serve_of_refused⟩
  intro entry hentry
  rw [hreply] at hentry
  rcases exists_build_of_settled hentry with ⟨typeName, schema, padding, hpair, hbuild⟩
  have hidentity := identity_of_build hbuild
  refine ⟨typeName, padding, hpair, congrArg Prod.fst hidentity, congrArg Prod.snd hidentity, ?_⟩
  intro schema' format hformat
  exact format_beq (hidentity.trans (identity_of_build hformat).symm)

end Registry
end RecordBytes
