import Mathlib
import RecordBytes.Proofs.Fault.Outcome
import RecordBytes.Schema.Basic

/-!
# Placing properties

Declarations pin ordinals in any order.  A schema is built of them when their names and their ordinals are
distinct and the ordinals are below the number of declarations, so there is exactly one property at every
ordinal, and the key and the data share the ordinals out between them.

Main definitions:

- `Schema.declared`: the declared properties at the ordinals that the declarations ask for.
- `Schema.Placed`: properties with distinct names and with distinct ordinals below a count.

Main results:

- `Schema.placeAll_eq_ok`: declarations are placed exactly when they can all be placed together.
- `Schema.build_eq_ok`: the same for schemas.
- `Schema.size_of_build`: a built schema has a property for each declaration.
- `Schema.key_of_build`: the key ordinals are distinct and in range.
- `Schema.mem_data_of_build`: the data ordinals are those outside the key.
-/

namespace RecordBytes

open Outcome

/-! ## Declared properties -/

/-- The ordinal that a declaration asks for: the pinned one, or else its position among the declarations. -/
def Declaration.ordinalAt (declaration : Declaration) (position : Nat) : Nat :=
  declaration.pinned.getD position

/-- The property of a declaration, at the ordinal that the declaration asks for. -/
def Declaration.propertyAt (declaration : Declaration) (position : Nat) : Property :=
  { declaration.property with ordinal := declaration.ordinalAt position }

namespace Schema

/-- The properties of declarations from a position on. -/
def declaredFrom (position : Nat) (declarations : List Declaration) : List Property :=
  (declarations.zipIdx position).map fun (declaration, position) => declaration.propertyAt position

/-- The properties of all declarations, in the order of the declarations. -/
def declared (declarations : List Declaration) : List Property :=
  declaredFrom 0 declarations

theorem declaredFrom_cons (position : Nat) (declaration : Declaration) (declarations : List Declaration) :
    declaredFrom position (declaration :: declarations) =
      declaration.propertyAt position :: declaredFrom (position + 1) declarations := by
  simp [declaredFrom]

@[simp]
theorem length_declared (declarations : List Declaration) :
    (declared declarations).length = declarations.length := by
  simp [declared, declaredFrom]

/-! ## Placing -/

/-- Properties with distinct names, and with distinct ordinals below a count. -/
structure Placed (count : Nat) (placed : List Property) : Prop where
  names : (placed.map Property.name).Nodup
  nodup : (placed.map Property.ordinal).Nodup
  lt : ∀ property ∈ placed, property.ordinal < count

theorem placed_nil (count : Nat) : Placed count [] :=
  ⟨List.nodup_nil, List.nodup_nil, by simp⟩

/-- One more property is placed when its name and its ordinal are free and the ordinal is in range. -/
theorem placed_concat {count : Nat} {placed : List Property} {property : Property} :
    Placed count (placed ++ [property]) ↔
      Placed count placed ∧ property.name ∉ placed.map Property.name ∧ property.ordinal < count ∧
        property.ordinal ∉ placed.map Property.ordinal := by
  constructor
  · intro h
    have hnames := h.names
    have hordinals := h.nodup
    rw [List.map_append, List.map_singleton, ← List.concat_eq_append, List.nodup_concat] at hnames hordinals
    refine ⟨⟨hnames.2, hordinals.2, ?_⟩, hnames.1, h.lt property (by simp), hordinals.1⟩
    intro other hother
    exact h.lt other (List.mem_append_left _ hother)
  · rintro ⟨h, hname, hlt, hordinal⟩
    refine ⟨?_, ?_, ?_⟩
    · rw [List.map_append, List.map_singleton, ← List.concat_eq_append, List.nodup_concat]
      exact ⟨hname, h.names⟩
    · rw [List.map_append, List.map_singleton, ← List.concat_eq_append, List.nodup_concat]
      exact ⟨hordinal, h.nodup⟩
    · intro other hother
      rcases List.mem_append.mp hother with hbefore | hlast
      · exact h.lt other hbefore
      · rcases List.mem_singleton.mp hlast with rfl
        exact hlt

/-- Properties in front of placed ones are placed. -/
theorem Placed.of_append {count : Nat} {placed rest : List Property} (h : Placed count (placed ++ rest)) :
    Placed count placed := by
  refine ⟨?_, ?_, fun property hproperty => h.lt property (List.mem_append_left _ hproperty)⟩
  · exact h.names.sublist ((List.sublist_append_left placed rest).map _)
  · exact h.nodup.sublist ((List.sublist_append_left placed rest).map _)

/-- A declaration is placed where it asks to be, if its name is free and its ordinal is in range and free. -/
theorem place_eq_ok {count position : Nat} {placed : List Property} {declaration : Declaration}
    {property : Property} :
    place count position placed declaration = .ok property ↔
      declaration.propertyAt position = property ∧ property.name ∉ placed.map Property.name ∧
        property.ordinal < count ∧ property.ordinal ∉ placed.map Property.ordinal := by
  unfold place
  simp only [ite_error_eq_ok, Except.ok.injEq, List.any_eq_true, beq_iff_eq, List.mem_map, Nat.not_le]
  constructor
  · rintro ⟨hname, hlt, hordinal, rfl⟩
    exact ⟨rfl, hname, hlt, hordinal⟩
  · rintro ⟨rfl, hname, hlt, hordinal⟩
    exact ⟨hname, hlt, hordinal, rfl⟩

/-- Declarations are placed behind others exactly when all of them can be placed together, and then each one is
where it asks to be. -/
theorem placeAll_eq_ok {count : Nat} {declarations : List Declaration} {placed found : List Property}
    (hplaced : Placed count placed) :
    placeAll count placed declarations = .ok found ↔
      placed ++ declaredFrom placed.length declarations = found ∧ Placed count found := by
  induction declarations generalizing placed with
  | nil =>
    have hnone : placed ++ declaredFrom placed.length [] = placed := by simp [declaredFrom]
    rw [placeAll, hnone]
    constructor
    · intro h
      rcases Except.ok.inj h with rfl
      exact ⟨rfl, hplaced⟩
    · rintro ⟨rfl, -⟩
      rfl
  | cons declaration declarations ih =>
    have hshift : placed ++ declaredFrom placed.length (declaration :: declarations) =
        (placed ++ [declaration.propertyAt placed.length]) ++
          declaredFrom (placed ++ [declaration.propertyAt placed.length]).length declarations := by
      rw [declaredFrom_cons, List.append_cons, List.length_append, List.length_singleton]
    simp only [placeAll, bind_eq_ok, place_eq_ok]
    rw [hshift]
    constructor
    · rintro ⟨property, ⟨rfl, hfits⟩, hrest⟩
      exact (ih (placed_concat.mpr ⟨hplaced, hfits⟩)).mp hrest
    · rintro ⟨hfound, hall⟩
      have hnext : Placed count (placed ++ [declaration.propertyAt placed.length]) := by
        rw [← hfound] at hall
        exact hall.of_append
      exact ⟨_, ⟨rfl, (placed_concat.mp hnext).2⟩, (ih hnext).mpr ⟨hfound, hall⟩⟩

/-- As many distinct ordinals as there are in range are all of them. -/
theorem Placed.exists_ordinal {count : Nat} {placed : List Property} (h : Placed count placed)
    (hlength : placed.length = count) {ordinal : Nat} (hordinal : ordinal < count) :
    ∃ property ∈ placed, property.ordinal = ordinal := by
  have hrange : (placed.map Property.ordinal).toFinset ⊆ Finset.range count := by
    intro other hother
    rcases List.mem_map.mp (List.mem_toFinset.mp hother) with ⟨property, hproperty, rfl⟩
    exact Finset.mem_range.mpr (h.lt property hproperty)
  have hcard : (Finset.range count).card ≤ (placed.map Property.ordinal).toFinset.card := by
    rw [List.toFinset_card_of_nodup h.nodup, List.length_map, hlength, Finset.card_range]
  have hall := Finset.eq_of_subset_of_card_le hrange hcard
  have hmem : ordinal ∈ (placed.map Property.ordinal).toFinset := by
    rw [hall]
    exact Finset.mem_range.mpr hordinal
  exact List.mem_map.mp (List.mem_toFinset.mp hmem)

/-! ## Built schemas -/

/-- The schema of placed declarations. -/
def ofPlaced (declarations : List Declaration) (placed : List Property) : Schema where
  properties := (List.range declarations.length).filterMap fun ordinal => placed.find? (·.ordinal == ordinal)
  key := ordinalsOf .key declarations placed
  data := (List.range declarations.length).filter (· ∉ ordinalsOf .key declarations placed)

variable {declarations : List Declaration} {schema : Schema}

/-- A schema is built exactly when all declared properties can be placed together. -/
theorem build_eq_ok :
    build declarations = .ok schema ↔
      Placed declarations.length (declared declarations) ∧
        ofPlaced declarations (declared declarations) = schema := by
  unfold build
  simp only [bind_eq_ok, pure_eq_ok, placeAll_eq_ok (placed_nil _), List.nil_append, List.length_nil]
  constructor
  · rintro ⟨placed, ⟨rfl, hplaced⟩, hschema⟩
    exact ⟨hplaced, hschema⟩
  · rintro ⟨hplaced, hschema⟩
    exact ⟨_, ⟨rfl, hplaced⟩, hschema⟩

/-- A built schema has a property for each declaration. -/
theorem size_of_build (h : build declarations = .ok schema) : schema.size = declarations.length := by
  rcases build_eq_ok.mp h with ⟨hall, rfl⟩
  refine (List.filterMap_length_eq_length.mpr ?_).trans List.length_range
  intro ordinal hordinal
  rcases hall.exists_ordinal (length_declared _) (List.mem_range.mp hordinal) with ⟨property, hproperty, hsame⟩
  exact List.find?_isSome.mpr ⟨property, hproperty, by simp [hsame]⟩

/-- The data of a built schema has the ordinals that are not in its key, each once. -/
theorem mem_data_of_build (h : build declarations = .ok schema) :
    schema.data.Nodup ∧ ∀ ordinal, ordinal ∈ schema.data ↔ ordinal < schema.size ∧ ordinal ∉ schema.key := by
  rw [size_of_build h]
  rcases build_eq_ok.mp h with ⟨-, rfl⟩
  exact ⟨List.nodup_range.filter _, fun ordinal => by simp [ofPlaced]⟩

theorem data_lt_of_build (h : build declarations = .ok schema) : ∀ ordinal ∈ schema.data, ordinal < schema.size :=
  fun ordinal hordinal => (((mem_data_of_build h).2 ordinal).mp hordinal).1

/-- The ordinals of a role are those of some of the placed properties, in order. -/
theorem ordinalsOf_sublist (role : Role) (declarations : List Declaration) (placed : List Property) :
    (ordinalsOf role declarations placed).Sublist (placed.map Property.ordinal) := by
  induction declarations generalizing placed with
  | nil => exact List.nil_sublist _
  | cons declaration declarations ih =>
    cases placed with
    | nil => exact List.nil_sublist _
    | cons property placed =>
      simp only [ordinalsOf, List.zip_cons_cons, List.filterMap_cons, List.map_cons] at ih ⊢
      split
      · exact (ih placed).cons _
      · next hordinal =>
        split at hordinal
        · rcases Option.some.inj hordinal with rfl
          exact (ih placed).cons_cons _
        · cases hordinal

/-- The key of a built schema has ordinals of its properties, each once. -/
theorem key_of_build (h : build declarations = .ok schema) :
    schema.key.Nodup ∧ ∀ ordinal ∈ schema.key, ordinal < schema.size := by
  rw [size_of_build h]
  rcases build_eq_ok.mp h with ⟨hall, rfl⟩
  have hsublist := ordinalsOf_sublist .key declarations (declared declarations)
  refine ⟨hall.nodup.sublist hsublist, ?_⟩
  intro ordinal hordinal
  rcases List.mem_map.mp (hsublist.subset hordinal) with ⟨property, hproperty, rfl⟩
  exact hall.lt property hproperty

/-- There is a property at each ordinal in range. -/
theorem length_select {ordinals : List Nat} (h : ∀ ordinal ∈ ordinals, ordinal < schema.size) :
    (schema.select ordinals).length = ordinals.length := by
  apply List.filterMap_length_eq_length.mpr
  intro ordinal hordinal
  have hlt : ordinal < schema.properties.length := h ordinal hordinal
  simpa using hlt

end Schema
end RecordBytes
