import Mathlib
import RecordBytes.Proofs.Schema.Placed

/-!
# Schemas and their declarations

Pinned ordinals and ordinals by position mix freely, so the ordinals of two declarations may clash although
either of them is in range, or leave a gap.  A schema is built exactly when no name is used twice and the
ordinals that the declarations ask for are those of a row, each once.  It then holds the declared properties by
ordinal, and its key and its data are the ordinals of the key declarations and the others.

Main definitions:

- `Schema.WellFormed`: declarations that fit together.

Main results:

- `Schema.placed_declared_iff`: declarations can be placed together exactly when they fit together.
- `Schema.map_ordinal_of_build`, `Schema.properties_perm_of_build`: the properties of a built schema.
- `Schema.key_eq_of_build`: the key of a built schema.
- `Schema.build_iff_wellFormed`: what is built, and of which declarations.
-/

namespace RecordBytes.Schema

open Outcome

/-! ## Declarations that fit together -/

/-- The ordinals that declarations ask for, in the order of the declarations. -/
def askedOrdinals (declarations : List Declaration) : List Nat :=
  declarations.zipIdx.map fun (declaration, position) => declaration.ordinalAt position

/-- Declarations that fit together: no name is used twice, and the ordinals that they ask for are those of a row,
each once. -/
structure WellFormed (declarations : List Declaration) : Prop where
  names : (declarations.map fun declaration => declaration.property.name).Nodup
  ordinals : (askedOrdinals declarations).Perm (List.range declarations.length)

theorem map_name_declared (declarations : List Declaration) :
    (declared declarations).map Property.name = declarations.map fun declaration => declaration.property.name := by
  have hfront : declarations = declarations.zipIdx.map Prod.fst := (List.zipIdx_map_fst 0 declarations).symm
  conv_rhs => rw [hfront, List.map_map]
  rw [declared, declaredFrom, List.map_map]
  rfl

theorem map_ordinal_declared (declarations : List Declaration) :
    (declared declarations).map Property.ordinal = askedOrdinals declarations := by
  rw [declared, declaredFrom, List.map_map]
  rfl

/-- Declarations can be placed together exactly when they fit together. -/
theorem placed_declared_iff {declarations : List Declaration} :
    Placed declarations.length (declared declarations) ↔ WellFormed declarations := by
  constructor
  · intro h
    refine ⟨map_name_declared declarations ▸ h.names, ?_⟩
    rw [← map_ordinal_declared]
    apply (List.perm_ext_iff_of_nodup h.nodup List.nodup_range).mpr
    intro ordinal
    rw [List.mem_range, List.mem_map]
    constructor
    · rintro ⟨property, hproperty, rfl⟩
      exact h.lt property hproperty
    · intro hordinal
      exact h.exists_ordinal (length_declared _) hordinal
  · intro h
    have hperm := h.ordinals
    rw [← map_ordinal_declared] at hperm
    refine ⟨(map_name_declared declarations).symm ▸ h.names, hperm.nodup_iff.mpr List.nodup_range, ?_⟩
    intro property hproperty
    exact List.mem_range.mp (hperm.mem_iff.mp (List.mem_map_of_mem hproperty))

/-! ## Built schemas -/

/-- Where no two items share a key, the item with a key is found by it. -/
theorem find?_eq_some_iff_of_nodup {α β : Type} [BEq β] [LawfulBEq β] {key : α → β} {items : List α}
    (hnodup : (items.map key).Nodup) {wanted : β} {item : α} :
    items.find? (key · == wanted) = some item ↔ item ∈ items ∧ key item = wanted := by
  constructor
  · intro h
    exact ⟨List.mem_of_find?_eq_some h, by simpa using List.find?_some h⟩
  · rintro ⟨hmem, rfl⟩
    have hfound : ∃ other, items.find? (key · == key item) = some other :=
      Option.isSome_iff_exists.mp (List.find?_isSome.mpr ⟨item, hmem, by simp⟩)
    rcases hfound with ⟨other, hother⟩
    have hsame : key other = key item := by simpa using List.find?_some hother
    rw [hother, List.inj_on_of_nodup_map hnodup (List.mem_of_find?_eq_some hother) hmem hsame]

variable {declarations : List Declaration} {schema : Schema}

/-- The property of a built schema at an ordinal has that ordinal. -/
theorem map_ordinal_of_build (h : build declarations = .ok schema) :
    schema.properties.map Property.ordinal = List.range declarations.length := by
  rcases build_eq_ok.mp h with ⟨hall, rfl⟩
  rw [ofPlaced, List.map_filterMap]
  refine (List.filterMap_congr ?_).trans List.filterMap_some
  intro ordinal hordinal
  rcases hall.exists_ordinal (length_declared _) (List.mem_range.mp hordinal) with ⟨property, hproperty, hat⟩
  have hfind := (find?_eq_some_iff_of_nodup hall.nodup).mpr ⟨hproperty, hat⟩
  rw [hfind, Option.map_some, hat]

/-- A built schema has the declared properties and no others. -/
theorem mem_properties_of_build (h : build declarations = .ok schema) {property : Property} :
    property ∈ schema.properties ↔ property ∈ declared declarations := by
  rcases build_eq_ok.mp h with ⟨hall, rfl⟩
  rw [ofPlaced, List.mem_filterMap]
  constructor
  · rintro ⟨ordinal, -, hfind⟩
    exact List.mem_of_find?_eq_some hfind
  · intro hmem
    have hfind := (find?_eq_some_iff_of_nodup hall.nodup).mpr ⟨hmem, rfl⟩
    exact ⟨property.ordinal, List.mem_range.mpr (hall.lt property hmem), hfind⟩

/-- A built schema has each declared property once. -/
theorem properties_perm_of_build (h : build declarations = .ok schema) :
    schema.properties.Perm (declared declarations) := by
  have hordinals : (schema.properties.map Property.ordinal).Nodup := by
    rw [map_ordinal_of_build h]
    exact List.nodup_range
  have hdeclared := (build_eq_ok.mp h).1.nodup
  apply (List.perm_ext_iff_of_nodup hordinals.of_map hdeclared.of_map).mpr
  intro property
  exact mem_properties_of_build h

/-- A built schema finds the property that was declared under a name. -/
theorem find?_of_build (h : build declarations = .ok schema) {name : String} {property : Property} :
    schema.find? name = some property ↔ property ∈ declared declarations ∧ property.name = name := by
  have hnames : (schema.properties.map Property.name).Nodup :=
    ((properties_perm_of_build h).map _).nodup_iff.mpr (build_eq_ok.mp h).1.names
  rw [find?, find?_eq_some_iff_of_nodup hnames, mem_properties_of_build h]

/-- The ordinals of a role are those that its declarations ask for. -/
theorem ordinalsOf_declaredFrom (role : Role) (position : Nat) (declarations : List Declaration) :
    ordinalsOf role declarations (declaredFrom position declarations) =
      ((declarations.zipIdx position).filter fun (declaration, _) => declaration.role = role).map
        fun (declaration, position) => declaration.ordinalAt position := by
  induction declarations generalizing position with
  | nil => rfl
  | cons declaration declarations ih =>
    have hrest := ih (position + 1)
    unfold ordinalsOf at hrest ⊢
    rw [declaredFrom_cons, List.zip_cons_cons, List.filterMap_cons, List.zipIdx_cons, List.filter_cons, hrest]
    by_cases hrole : declaration.role = role
    · simp [hrole, Declaration.propertyAt]
    · simp [hrole]

/-- The key of a built schema has the ordinals that the key declarations ask for, in their order. -/
theorem key_eq_of_build (h : build declarations = .ok schema) :
    schema.key = (declarations.zipIdx.filter fun (declaration, _) => declaration.role = .key).map
      fun (declaration, position) => declaration.ordinalAt position := by
  rcases build_eq_ok.mp h with ⟨-, rfl⟩
  exact ordinalsOf_declaredFrom .key 0 declarations

/-- The data of a built schema is in increasing order. -/
theorem pairwise_data_of_build (h : build declarations = .ok schema) : schema.data.Pairwise (· < ·) := by
  rcases build_eq_ok.mp h with ⟨-, rfl⟩
  exact List.pairwise_lt_range.filter _

/-- A schema is built of declarations exactly when they fit together: no name is used twice, and the ordinals that
they ask for, pinned or by position, are those of a row, each once.  Otherwise building is refused.  A built schema
has each declared property once, at its ordinal, and finds it by its name.  Its key has the ordinals of the key
declarations, in their order, and its data all the others, in increasing order. -/
theorem build_iff_wellFormed (declarations : List Declaration) :
    ((∃ schema, build declarations = .ok schema) ↔ WellFormed declarations) ∧
    (¬ WellFormed declarations →
      ∃ refusal, (liftM (build declarations) : Except Fault Schema) = .error (.illegal refusal)) ∧
    ∀ schema, build declarations = .ok schema →
      (schema.size = declarations.length ∧
        (∀ (ordinal : Nat) (property : Property), schema.properties[ordinal]? = some property →
          property.ordinal = ordinal) ∧
        schema.properties.Perm (declared declarations)) ∧
      schema.key = (declarations.zipIdx.filter fun (declaration, _) => declaration.role = .key).map
        (fun (declaration, position) => declaration.ordinalAt position) ∧
      (schema.data.Pairwise (· < ·) ∧
        ∀ ordinal, ordinal ∈ schema.data ↔ ordinal < declarations.length ∧ ordinal ∉ schema.key) ∧
      ∀ name property, schema.find? name = some property ↔
        property ∈ declared declarations ∧ property.name = name := by
  have hbuilt : (∃ schema, build declarations = .ok schema) ↔ WellFormed declarations := by
    simp only [build_eq_ok, placed_declared_iff, exists_and_left, exists_eq', and_true]
  refine ⟨hbuilt, ?_, ?_⟩
  · intro hill
    have hfails : ∃ refusal, build declarations = .error refusal := by
      rwa [exists_error_iff, hbuilt]
    rcases hfails with ⟨refusal, hrefusal⟩
    exact ⟨refusal, by rw [hrefusal]; rfl⟩
  · intro schema h
    refine ⟨⟨size_of_build h, ?_, properties_perm_of_build h⟩, key_eq_of_build h,
      ⟨pairwise_data_of_build h, ?_⟩, fun _ _ => find?_of_build h⟩
    · intro ordinal property hproperty
      have hat : (schema.properties.map Property.ordinal)[ordinal]? = some property.ordinal := by
        rw [List.getElem?_map, hproperty, Option.map_some]
      rw [map_ordinal_of_build h] at hat
      rcases List.getElem?_eq_some_iff.mp hat with ⟨hlt, hsame⟩
      rw [List.getElem_range] at hsame
      exact hsame.symm
    · rw [← size_of_build h]
      exact (mem_data_of_build h).2

/-- A number of this name, which asks for an ordinal or takes its position. -/
def declaration (role : Role) (name : String) (pinned : Option Nat) : Declaration :=
  ⟨role, pinned, name, .plain (.signed .w16), false, .unspecified, none, 0⟩

/-- Two key properties pinned around one that takes its position make a schema, whose key is not in the order of
the ordinals; a property pinned to the position of another one makes none. -/
theorem build_pinnedAround :
    (∃ schema, build [declaration .key "last" (some 2), declaration .data "middle" none,
        declaration .key "first" (some 0)] = .ok schema ∧ schema.key = [2, 0] ∧
      ∃ property, schema.find? "first" = some property ∧ property.ordinal = 0) ∧
    ∃ refusal, (liftM (build [declaration .key "first" none, declaration .data "other" (some 0)]) :
      Except Fault Schema) = .error (.illegal refusal) := by
  have hfits : WellFormed [declaration .key "last" (some 2), declaration .data "middle" none,
      declaration .key "first" (some 0)] := ⟨by decide, by decide⟩
  have hclash : ¬ WellFormed [declaration .key "first" none, declaration .data "other" (some 0)] := by
    intro h
    exact absurd h.ordinals (by decide)
  rcases (build_iff_wellFormed _).1.mpr hfits with ⟨schema, hschema⟩
  rcases (build_iff_wellFormed _).2.2 schema hschema with ⟨-, hkey, -, hfind⟩
  refine ⟨⟨schema, hschema, hkey, ?_⟩, (build_iff_wellFormed _).2.1 hclash⟩
  exact ⟨(declaration .key "first" (some 0)).propertyAt 2, (hfind _ _).mpr ⟨by simp [declared, declaredFrom], rfl⟩,
    rfl⟩

end RecordBytes.Schema
