import Mathlib
import RecordBytes.Binding
import RecordBytes.Proofs.Format.Rebuilt

/-!
# Bindings that were built

A binding is built of requests, which give an accessor under a name or the access to the states of an object.
The first mistake is kept to the end, so a binding that was built has one accessor for each property, and the
accessor at an ordinal is one that was given under the name of the property there.

Main definitions:

- `Binding.Builder.follow`: a binding under construction after some requests.
- `Binding.Builder.Follows`: accessors that some of the requests gave.
- `Binding.WellBuilt`: bindings with one accessor for each property of a schema.

Main results:

- `Binding.Builder.Follows.request`, `Binding.Builder.Follows.follow`: what one request keeps, and what any number
  of them keep.
- `Binding.Builder.length_accessors_of_build`, `Binding.Builder.given_of_build`: the accessors of a binding that
  was built.
- `Binding.wellBuilt_of_build`: a binding that was built is well built.
-/

namespace RecordBytes.Binding

open Outcome

variable {σ : Type}

/-- A request to a binding under construction. -/
inductive Request (σ : Type)
  | bind (name : String) (accessor : Accessor σ)
  | trackSlots (access : SlotAccess σ)

namespace Builder

/-- A binding under construction after a request. -/
def request (builder : Builder σ) : Request σ → Builder σ
  | .bind name accessor => builder.bind name accessor
  | .trackSlots access => builder.trackSlots access

/-- A binding under construction after some requests, one after another. -/
def follow (builder : Builder σ) : List (Request σ) → Builder σ
  | [] => builder
  | request :: requests => (builder.request request).follow requests

variable {format : RecordFormat} {requests : List (Request σ)} {builder : Builder σ} {binding : Binding σ}

/-- There is room for an accessor of each property, and every accessor was given by one of the requests, under the
name of the property at its ordinal. -/
structure Follows (format : RecordFormat) (requests : List (Request σ)) (builder : Builder σ) : Prop where
  format_eq : builder.format = format
  length_eq : builder.accessors.length = format.schema.size
  given : ∀ (ordinal : Nat) (accessor : Accessor σ), builder.accessors[ordinal]? = some (some accessor) →
    ∃ property, format.schema.find? property.name = some property ∧ property.ordinal = ordinal ∧
      .bind property.name accessor ∈ requests

theorem follows_start (format : RecordFormat) (requests : List (Request σ)) :
    Follows format requests (start format) := by
  refine ⟨rfl, List.length_replicate, ?_⟩
  intro ordinal accessor haccessor
  rw [start, List.getElem?_replicate] at haccessor
  split at haccessor
  · cases Option.some.inj haccessor
  · cases haccessor

/-- A mistake changes no accessor. -/
theorem Follows.mistaken (h : Follows format requests builder) (mistake : Option Refusal) :
    Follows format requests { builder with mistake } :=
  ⟨h.format_eq, h.length_eq, h.given⟩

/-- An accessor of a property that has none yet is put at the ordinal of the property. -/
theorem Follows.put (h : Follows format requests builder) {property : Property} {accessor : Accessor σ}
    (hfind : format.schema.find? property.name = some property)
    (hfree : builder.accessors[property.ordinal]? = some none)
    (hmem : .bind property.name accessor ∈ requests) :
    Follows format requests
      { builder with accessors := builder.accessors.set property.ordinal (some accessor) } := by
  refine ⟨h.format_eq, (List.length_set ..).trans h.length_eq, ?_⟩
  intro ordinal given hgiven
  by_cases hsame : property.ordinal = ordinal
  · have hlt : property.ordinal < builder.accessors.length := (List.getElem?_eq_some_iff.mp hfree).1
    rw [← hsame, List.getElem?_set_self hlt] at hgiven
    rcases Option.some.inj (Option.some.inj hgiven) with rfl
    exact ⟨property, hfind, hsame, hmem⟩
  · rw [List.getElem?_set_ne hsame] at hgiven
    exact h.given ordinal given hgiven

/-- Giving an accessor puts it at the ordinal of its property, or is a mistake. -/
theorem Follows.bind (h : Follows format requests builder) {name : String} {accessor : Accessor σ}
    (hmem : .bind name accessor ∈ requests) : Follows format requests (builder.bind name accessor) := by
  unfold Builder.bind
  split
  · exact h
  · split
    · exact h.mistaken _
    · next property hfind =>
      have hname : property.name = name := by simpa using List.find?_some hfind
      rw [h.format_eq] at hfind
      subst hname
      split
      · next hfree => exact h.put hfind hfree hmem
      · exact h.mistaken _

/-- A request keeps the accessors that there are, and adds none but its own. -/
theorem Follows.request (h : Follows format requests builder) {request : Request σ} (hmem : request ∈ requests) :
    Follows format requests (builder.request request) := by
  cases request with
  | bind name accessor => exact h.bind hmem
  | trackSlots access => exact ⟨h.format_eq, h.length_eq, h.given⟩

/-- Following requests one after another adds no accessors but theirs. -/
theorem Follows.follow (h : Follows format requests builder) {more : List (Request σ)}
    (hmore : ∀ request ∈ more, request ∈ requests) : Follows format requests (builder.follow more) := by
  induction more generalizing builder with
  | nil => exact h
  | cons request more ih =>
    have hstep := h.request (hmore request List.mem_cons_self)
    exact ih hstep fun other hother => hmore other (List.mem_cons_of_mem _ hother)

/-! ## Bindings that were built -/

/-- The accessors are collected when every property has one. -/
theorem collect_eq_ok {typeName : String} {pairs : List (Property × Option (Accessor σ))}
    {accessors : List (Accessor σ)} :
    collect typeName pairs = .ok accessors ↔ pairs.map Prod.snd = accessors.map some := by
  induction pairs generalizing accessors with
  | nil =>
    rw [collect, Except.ok.injEq]
    cases accessors with
    | nil => simp
    | cons accessor accessors => simp
  | cons pair pairs ih =>
    rcases pair with ⟨property, _ | accessor⟩
    · cases accessors with
      | nil => simp [collect]
      | cons other accessors => simp [collect]
    · simp only [collect, bind_eq_ok, pure_eq_ok, ih, List.map_cons]
      cases accessors with
      | nil => simp
      | cons other accessors => simp [and_comm]

/-- A binding is built of a binding under construction when no mistake was made and every property has an
accessor. -/
theorem build_eq_ok (hlength : builder.accessors.length = builder.format.schema.size) :
    builder.build = .ok binding ↔ builder.mistake = none ∧ binding.format = builder.format ∧
      builder.accessors = binding.accessors.map some ∧ binding.slots = builder.slots := by
  have hzip : (builder.format.schema.properties.zip builder.accessors).map Prod.snd = builder.accessors :=
    List.map_snd_zip (le_of_eq hlength)
  unfold build
  cases hmistake : builder.mistake with
  | some mistake => simp
  | none =>
    simp only [bind_eq_ok, pure_eq_ok, collect_eq_ok, hzip, true_and]
    constructor
    · rintro ⟨accessors, haccessors, rfl⟩
      exact ⟨rfl, haccessors, rfl⟩
    · rintro ⟨hformat, haccessors, hslots⟩
      refine ⟨binding.accessors, haccessors, ?_⟩
      rw [← hformat, ← hslots]

/-- A binding under construction that was built. -/
theorem follows_of_build (h : ((start format).follow requests).build = .ok binding) :
    binding.format = format ∧ ∃ builder, Follows format requests builder ∧
      builder.accessors = binding.accessors.map some := by
  have hfollows : Follows format requests ((start format).follow requests) :=
    (follows_start format requests).follow fun _ hmem => hmem
  have hlength : ((start format).follow requests).accessors.length =
      ((start format).follow requests).format.schema.size := by
    rw [hfollows.format_eq]
    exact hfollows.length_eq
  rcases (build_eq_ok hlength).mp h with ⟨-, hformat, haccessors, -⟩
  exact ⟨hformat.trans hfollows.format_eq, _, hfollows, haccessors⟩

theorem format_of_build (h : ((start format).follow requests).build = .ok binding) : binding.format = format :=
  (follows_of_build h).1

/-- A binding that was built has an accessor for each property. -/
theorem length_accessors_of_build (h : ((start format).follow requests).build = .ok binding) :
    binding.accessors.length = format.schema.size := by
  rcases follows_of_build h with ⟨-, builder, hfollows, haccessors⟩
  rw [← hfollows.length_eq, haccessors, List.length_map]

/-- The accessor at an ordinal was given under the name of the property with that ordinal. -/
theorem given_of_build (h : ((start format).follow requests).build = .ok binding) {ordinal : Nat}
    {accessor : Accessor σ} (haccessor : binding.accessors[ordinal]? = some accessor) :
    ∃ property, format.schema.find? property.name = some property ∧ property.ordinal = ordinal ∧
      .bind property.name accessor ∈ requests := by
  rcases follows_of_build h with ⟨-, builder, hfollows, haccessors⟩
  apply hfollows.given ordinal accessor
  rw [haccessors, List.getElem?_map, haccessor, Option.map_some]

end Builder

/-- A binding with one accessor for each property, over a format with the fields of its schema. -/
structure WellBuilt (binding : Binding σ) : Prop where
  length_eq : binding.accessors.length = binding.format.schema.size
  shared : RecordFormat.Shared binding.format.schema
  fields : RecordFormat.FieldsOf binding.format.schema binding.format

theorem wellBuilt_of_build {typeName : String} {declarations : List Declaration} {schema : Schema}
    {padding : RecordPadding} {format : RecordFormat} {requests : List (Request σ)} {binding : Binding σ}
    (hschema : Schema.build declarations = .ok schema)
    (hformat : RecordFormat.build typeName schema padding = .ok format)
    (hbinding : ((Builder.start format).follow requests).build = .ok binding) : binding.WellBuilt := by
  obtain rfl : format.schema = schema := RecordFormat.schema_of_build hformat
  obtain rfl : binding.format = format := Builder.format_of_build hbinding
  exact ⟨Builder.length_accessors_of_build hbinding, RecordFormat.shared_of_build hschema,
    RecordFormat.fieldsOf_of_schema hschema hformat⟩

end RecordBytes.Binding
