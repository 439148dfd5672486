import Mathlib
import RecordBytes.Proofs.Binding.Built
import RecordBytes.Proofs.Schema.Declared

/-!
# Bindings and the names that they were given

Accessors are given by name, in any order and among requests of another kind, and each takes the place of the
property that has the name.  A binding is built exactly when the names are those of the properties, each once; what
it does at an ordinal was then given under the name of the property there.  A name that no property has, or that was
given before, is a mistake: the first one is kept while later requests pass by, and comes out when the binding is
built.

Main definitions:

- `Schema.Regular`: schemas whose properties are told apart by name and stand at their ordinals.
- `Binding.Builder.Distinct`, `Binding.Builder.Mistaken`: requests without a mistake, and a first mistake.
- `Binding.Builder.Holds`: the accessors of requests without a mistake, each at its ordinal.

Main results:

- `Binding.Builder.Holds.bind`, `Binding.Builder.holds_follow`: what one request keeps, and what any number of them
  keep.
- `Binding.Builder.distinct_or_mistaken`: requests have no mistake or a first one.
- `Binding.Builder.built_iff_named_once`: which bindings are built, and of what.
-/

namespace RecordBytes

/-! ## Properties by name and by ordinal -/

namespace Schema

/-- No two properties share a name, and each property stands at its ordinal. -/
structure Regular (schema : Schema) : Prop where
  names : (schema.properties.map Property.name).Nodup
  ordinals : schema.properties.map Property.ordinal = List.range schema.size

theorem regular_of_build {declarations : List Declaration} {schema : Schema}
    (h : build declarations = .ok schema) : schema.Regular := by
  refine ⟨((properties_perm_of_build h).map _).nodup_iff.mpr (build_eq_ok.mp h).1.names, ?_⟩
  rw [map_ordinal_of_build h, size_of_build h]

namespace Regular

variable {schema : Schema} {property : Property}

/-- A property is found by its name. -/
theorem find? (h : schema.Regular) (hproperty : property ∈ schema.properties) :
    schema.find? property.name = some property :=
  (find?_eq_some_iff_of_nodup h.names).mpr ⟨hproperty, rfl⟩

/-- A property is found at its ordinal. -/
theorem getElem? (h : schema.Regular) {ordinal : Nat} :
    schema.properties[ordinal]? = some property ↔ property ∈ schema.properties ∧ property.ordinal = ordinal := by
  have hat : ∀ {place : Nat} {item : Property}, schema.properties[place]? = some item → item.ordinal = place := by
    intro place item hitem
    have hmapped : (schema.properties.map Property.ordinal)[place]? = some item.ordinal := by
      rw [List.getElem?_map, hitem, Option.map_some]
    rw [h.ordinals] at hmapped
    rcases List.getElem?_eq_some_iff.mp hmapped with ⟨hlt, hsame⟩
    rwa [List.getElem_range, eq_comm] at hsame
  constructor
  · intro hproperty
    exact ⟨List.mem_of_getElem? hproperty, hat hproperty⟩
  · rintro ⟨hmem, rfl⟩
    rcases List.mem_iff_getElem?.mp hmem with ⟨place, hplace⟩
    rwa [hat hplace]

theorem ordinal_lt (h : schema.Regular) (hproperty : property ∈ schema.properties) :
    property.ordinal < schema.size :=
  (List.getElem?_eq_some_iff.mp (h.getElem?.mpr ⟨hproperty, rfl⟩)).1

/-- Every ordinal of a row is that of a property. -/
theorem exists_getElem? (h : schema.Regular) {ordinal : Nat} (hlt : ordinal < schema.size) :
    ∃ property ∈ schema.properties, property.ordinal = ordinal ∧ schema.properties[ordinal]? = some property := by
  have hproperty : schema.properties[ordinal]? = some schema.properties[ordinal] := List.getElem?_eq_getElem hlt
  rcases h.getElem?.mp hproperty with ⟨hmem, hordinal⟩
  exact ⟨_, hmem, hordinal, hproperty⟩

/-- Properties at different places have different ordinals. -/
theorem ordinal_inj (h : schema.Regular) {other : Property} (hproperty : property ∈ schema.properties)
    (hother : other ∈ schema.properties) (hsame : other.ordinal = property.ordinal) : other = property := by
  have hat := h.getElem?.mpr ⟨hproperty, rfl⟩
  rw [h.getElem?.mpr ⟨hother, hsame⟩] at hat
  exact Option.some.inj hat

theorem name_inj (h : schema.Regular) {other : Property} (hproperty : property ∈ schema.properties)
    (hother : other ∈ schema.properties) (hsame : other.name = property.name) : other = property :=
  List.inj_on_of_nodup_map h.names hother hproperty hsame

end Regular
end Schema

namespace Binding

open Outcome

variable {σ : Type}

/-! ## Names of requests -/

namespace Request

/-- The name under which a request gives an accessor. -/
def name? : Request σ → Option String
  | bind name _ => some name
  | trackSlots _ => none

/-- The access to the states that a request gives. -/
def access? : Request σ → Option (SlotAccess σ)
  | bind _ _ => none
  | trackSlots access => some access

end Request

namespace Builder

/-- The names under which requests give accessors, in their order. -/
def names (requests : List (Request σ)) : List String :=
  requests.filterMap Request.name?

variable {format : RecordFormat} {requests : List (Request σ)} {builder : Builder σ} {binding : Binding σ}
  {name : String}

theorem mem_names : name ∈ names requests ↔ ∃ accessor, .bind name accessor ∈ requests := by
  rw [names, List.mem_filterMap]
  constructor
  · rintro ⟨request, hmem, hname⟩
    cases request with
    | bind given accessor =>
      rcases Option.some.inj hname with rfl
      exact ⟨accessor, hmem⟩
    | trackSlots access => cases hname
  · rintro ⟨accessor, hmem⟩
    exact ⟨_, hmem, rfl⟩

theorem names_bind (requests : List (Request σ)) (name : String) (accessor : Accessor σ) :
    names (requests ++ [.bind name accessor]) = names requests ++ [name] := by
  simp [names, Request.name?]

theorem names_trackSlots (requests : List (Request σ)) (access : SlotAccess σ) :
    names (requests ++ [.trackSlots access]) = names requests := by
  simp [names, Request.name?]

/-- Every name is that of a property, and none is given twice. -/
structure Distinct (schema : Schema) (requests : List (Request σ)) : Prop where
  known : ∀ name ∈ names requests, name ∈ schema.properties.map Property.name
  nodup : (names requests).Nodup

/-- The mistake of giving an accessor under a name behind some requests: no property has the name, or it was given
before. -/
inductive Mistaken (format : RecordFormat) (before : List (Request σ)) (name : String) : Refusal → Prop
  | unknown (h : name ∉ format.schema.properties.map Property.name) :
      Mistaken format before name (.unknownProperty format.typeName name)
  | twice (h : name ∈ format.schema.properties.map Property.name) (hbefore : name ∈ names before) :
      Mistaken format before name (.boundTwice name)

/-- Requests have no mistake, or there is a first one among them. -/
theorem distinct_or_mistaken (format : RecordFormat) (requests : List (Request σ)) :
    Distinct format.schema requests ∨ ∃ before name accessor after refusal,
      requests = before ++ .bind name accessor :: after ∧ Distinct format.schema before ∧
        Mistaken format before name refusal := by
  induction requests using List.reverseRecOn with
  | nil => exact Or.inl ⟨by simp [names], by simp [names]⟩
  | append_singleton requests last ih =>
    rcases ih with hdistinct | ⟨before, name, accessor, after, refusal, rfl, hbefore, hmistaken⟩
    · cases last with
      | trackSlots access =>
        refine Or.inl ⟨?_, ?_⟩
        · rw [names_trackSlots]
          exact hdistinct.known
        · rw [names_trackSlots]
          exact hdistinct.nodup
      | bind name accessor =>
        by_cases hknown : name ∈ format.schema.properties.map Property.name
        · by_cases hgiven : name ∈ names requests
          · exact Or.inr ⟨requests, name, accessor, [], _, rfl, hdistinct, Mistaken.twice hknown hgiven⟩
          · refine Or.inl ⟨?_, ?_⟩
            · rw [names_bind]
              intro other hother
              rcases List.mem_append.mp hother with hbefore | hlast
              · exact hdistinct.known other hbefore
              · rwa [List.mem_singleton.mp hlast]
            · rw [names_bind, ← List.concat_eq_append, List.nodup_concat]
              exact ⟨hgiven, hdistinct.nodup⟩
        · exact Or.inr ⟨requests, name, accessor, [], _, rfl, hdistinct, Mistaken.unknown hknown⟩
    · exact Or.inr ⟨before, name, accessor, after ++ [last], refusal, by simp, hbefore, hmistaken⟩

/-- A mistake among requests is one of all requests. -/
theorem Mistaken.not_distinct {before after : List (Request σ)} {accessor : Accessor σ} {refusal : Refusal}
    (h : Mistaken format before name refusal) :
    ¬ Distinct format.schema (before ++ .bind name accessor :: after) := by
  intro hdistinct
  have hnames : names (before ++ .bind name accessor :: after) = names before ++ name :: names after := by
    simp [names, Request.name?]
  have hnodup := hdistinct.nodup
  rw [hnames] at hnodup
  cases h with
  | unknown hunknown => exact hunknown (hdistinct.known name (by rw [hnames]; simp))
  | twice _ hbefore => exact (List.nodup_append.mp hnodup).2.2 name hbefore name List.mem_cons_self rfl

/-- The names are those of the properties, each once, when there is no mistake and no property without an
accessor. -/
theorem names_perm_iff {schema : Schema} (hregular : schema.Regular) :
    (names requests).Perm (schema.properties.map Property.name) ↔
      Distinct schema requests ∧ ∀ property ∈ schema.properties, property.name ∈ names requests := by
  constructor
  · intro hperm
    refine ⟨⟨fun name hname => hperm.mem_iff.mp hname, hperm.nodup_iff.mpr hregular.names⟩, ?_⟩
    intro property hproperty
    exact hperm.mem_iff.mpr (List.mem_map_of_mem hproperty)
  · rintro ⟨hdistinct, hall⟩
    apply (List.perm_ext_iff_of_nodup hdistinct.nodup hregular.names).mpr
    intro name
    constructor
    · exact hdistinct.known name
    · intro hname
      rcases List.mem_map.mp hname with ⟨property, hproperty, rfl⟩
      exact hall property hproperty

/-! ## Requests one after another -/

theorem follow_append (builder : Builder σ) (front back : List (Request σ)) :
    builder.follow (front ++ back) = (builder.follow front).follow back := by
  induction front generalizing builder with
  | nil => rfl
  | cons request front ih => exact ih (builder.request request)

/-- Giving an accessor keeps the access to the states. -/
@[simp]
theorem slots_bind (builder : Builder σ) (name : String) (accessor : Accessor σ) :
    (builder.bind name accessor).slots = builder.slots := by
  unfold Builder.bind
  repeat' split
  all_goals rfl

/-- The access to the states is the one that was given last. -/
theorem slots_follow (format : RecordFormat) (requests : List (Request σ)) :
    ((start format).follow requests).slots = (requests.filterMap Request.access?).getLast? := by
  induction requests using List.reverseRecOn with
  | nil => rfl
  | append_singleton requests last ih =>
    rw [follow_append, List.filterMap_append]
    cases last with
    | trackSlots access => simp [follow, request, trackSlots, Request.access?]
    | bind name accessor => simp [follow, request, Request.access?, ih]

/-- A mistake is kept, whatever requests follow. -/
theorem mistake_follow {refusal : Refusal} (h : builder.mistake = some refusal) (requests : List (Request σ)) :
    (builder.follow requests).mistake = some refusal := by
  induction requests generalizing builder with
  | nil => exact h
  | cons request requests ih =>
    apply ih
    cases request with
    | bind name accessor => rw [request, Builder.bind, if_pos (by simp [h]), h]
    | trackSlots access => exact h

/-- There is no mistake, and the accessor at the ordinal of a property is the one that was given under its name. -/
structure Holds (format : RecordFormat) (requests : List (Request σ)) (builder : Builder σ) : Prop where
  format_eq : builder.format = format
  length_eq : builder.accessors.length = format.schema.size
  mistake_eq : builder.mistake = none
  bound : ∀ property ∈ format.schema.properties, ∀ accessor,
    builder.accessors[property.ordinal]? = some (some accessor) ↔ .bind property.name accessor ∈ requests

theorem holds_start (format : RecordFormat) : Holds format [] (start format : Builder σ) := by
  refine ⟨rfl, List.length_replicate, rfl, ?_⟩
  intro property _ accessor
  simp [start, List.getElem?_replicate]

namespace Holds

theorem trackSlots (h : Holds format requests builder) (access : SlotAccess σ) :
    Holds format (requests ++ [.trackSlots access]) (builder.trackSlots access) := by
  refine ⟨h.format_eq, h.length_eq, h.mistake_eq, ?_⟩
  intro property hproperty accessor
  simpa [Builder.trackSlots] using h.bound property hproperty accessor

/-- A property whose name was not given has room for an accessor. -/
theorem free (h : Holds format requests builder) (hregular : format.schema.Regular) {property : Property}
    (hproperty : property ∈ format.schema.properties) (hnew : property.name ∉ names requests) :
    builder.accessors[property.ordinal]? = some none := by
  have hlt := hregular.ordinal_lt hproperty
  rw [← h.length_eq] at hlt
  cases hslot : builder.accessors[property.ordinal]? with
  | none => exact absurd hlt (Nat.not_lt.mpr (List.getElem?_eq_none_iff.mp hslot))
  | some slot =>
    cases slot with
    | none => rfl
    | some accessor => exact absurd (mem_names.mpr ⟨accessor, (h.bound property hproperty accessor).mp hslot⟩) hnew

/-- An accessor that is given under a new name of a property is put at the ordinal of the property. -/
theorem bind (h : Holds format requests builder) (hregular : format.schema.Regular) {property : Property}
    (hproperty : property ∈ format.schema.properties) (hnew : property.name ∉ names requests)
    (accessor : Accessor σ) :
    Holds format (requests ++ [.bind property.name accessor]) (builder.bind property.name accessor) := by
  have hfree := h.free hregular hproperty hnew
  have hput : builder.bind property.name accessor =
      { builder with accessors := builder.accessors.set property.ordinal (some accessor) } := by
    simp [Builder.bind, h.mistake_eq, h.format_eq, hregular.find? hproperty, hfree]
  rw [hput]
  refine ⟨h.format_eq, (List.length_set ..).trans h.length_eq, h.mistake_eq, ?_⟩
  intro other hother given
  by_cases hsame : other = property
  · subst hsame
    have hlt : other.ordinal < builder.accessors.length := (List.getElem?_eq_some_iff.mp hfree).1
    have hgiven : .bind other.name given ∉ requests := fun hmem => hnew (mem_names.mpr ⟨given, hmem⟩)
    simp [List.getElem?_set_self hlt, hgiven, eq_comm]
  · have hordinal : property.ordinal ≠ other.ordinal := by
      intro heq
      exact hsame (hregular.ordinal_inj hproperty hother heq.symm)
    have hname : other.name ≠ property.name := mt (hregular.name_inj hproperty hother) hsame
    simpa [List.getElem?_set_ne hordinal, hname] using h.bound other hother given

/-- An accessor that is given by mistake leaves the mistake. -/
theorem mistaken (h : Holds format requests builder) (hregular : format.schema.Regular) {refusal : Refusal}
    (hmistaken : Mistaken format requests name refusal) (accessor : Accessor σ) :
    (builder.bind name accessor).mistake = some refusal := by
  cases hmistaken with
  | unknown hunknown =>
    have hfind : format.schema.find? name = none := by
      rw [Schema.find?, List.find?_eq_none]
      intro property hproperty hsame
      exact hunknown (List.mem_map.mpr ⟨property, hproperty, by simpa using hsame⟩)
    simp [Builder.bind, h.mistake_eq, h.format_eq, hfind]
  | twice hknown hbefore =>
    rcases List.mem_map.mp hknown with ⟨property, hproperty, rfl⟩
    rcases mem_names.mp hbefore with ⟨given, hgiven⟩
    have hslot := (h.bound property hproperty given).mpr hgiven
    simp [Builder.bind, h.mistake_eq, h.format_eq, hregular.find? hproperty, hslot]

end Holds

/-- Requests without a mistake put every accessor at the ordinal of its property. -/
theorem holds_follow (hregular : format.schema.Regular) (h : Distinct format.schema requests) :
    Holds format requests ((start format).follow requests) := by
  induction requests using List.reverseRecOn with
  | nil => exact holds_start format
  | append_singleton requests last ih =>
    rw [follow_append]
    cases last with
    | trackSlots access =>
      have hnames := names_trackSlots requests access
      exact (ih ⟨hnames ▸ h.known, hnames ▸ h.nodup⟩).trackSlots access
    | bind name accessor =>
      have hknown := h.known
      have hnodup := h.nodup
      rw [names_bind] at hknown hnodup
      rw [← List.concat_eq_append, List.nodup_concat] at hnodup
      rcases List.mem_map.mp (hknown name (by simp)) with ⟨property, hproperty, rfl⟩
      have hbefore := ih ⟨fun other hother => hknown other (List.mem_append_left _ hother), hnodup.2⟩
      exact hbefore.bind hregular hproperty hnodup.1 accessor

/-! ## What is built -/

/-- A first mistake is what building reports. -/
theorem build_of_mistaken (hregular : format.schema.Regular) {before after : List (Request σ)} {accessor : Accessor σ}
    {refusal : Refusal} (hbefore : Distinct format.schema before) (hmistaken : Mistaken format before name refusal) :
    ((start format).follow (before ++ .bind name accessor :: after)).build = .error refusal := by
  have hmistake := (holds_follow hregular hbefore).mistaken hregular hmistaken accessor
  have hkept := mistake_follow hmistake after
  rw [follow_append]
  unfold build
  simp only [follow, request, hkept]

namespace Holds

/-- What is built without a mistake has its accessors from the requests, each at the ordinal of its property. -/
theorem accessor_of_build (h : Holds format requests builder) (hregular : format.schema.Regular)
    (hbuild : builder.build = .ok binding) (ordinal : Nat) (accessor : Accessor σ) :
    binding.accessors[ordinal]? = some accessor ↔
      ∃ property, format.schema.properties[ordinal]? = some property ∧ .bind property.name accessor ∈ requests := by
  have hlength : builder.accessors.length = builder.format.schema.size := by rw [h.length_eq, h.format_eq]
  rcases (build_eq_ok hlength).mp hbuild with ⟨-, -, haccessors, -⟩
  have hslot : builder.accessors[ordinal]? = some (some accessor) ↔ binding.accessors[ordinal]? = some accessor := by
    rw [haccessors, List.getElem?_map]
    simp
  rw [← hslot]
  constructor
  · intro hgiven
    have hlt := (List.getElem?_eq_some_iff.mp hgiven).1
    rw [h.length_eq] at hlt
    rcases hregular.exists_getElem? hlt with ⟨property, hmem, rfl, hproperty⟩
    exact ⟨property, hproperty, (h.bound property hmem accessor).mp hgiven⟩
  · rintro ⟨property, hproperty, hgiven⟩
    rcases hregular.getElem?.mp hproperty with ⟨hmem, rfl⟩
    exact (h.bound property hmem accessor).mpr hgiven

/-- Without a mistake, a binding is built exactly when every property has an accessor. -/
theorem exists_build_iff (h : Holds format requests builder) (hregular : format.schema.Regular) :
    (∃ binding, builder.build = .ok binding) ↔
      ∀ property ∈ format.schema.properties, property.name ∈ names requests := by
  have hlength : builder.accessors.length = builder.format.schema.size := by rw [h.length_eq, h.format_eq]
  constructor
  · rintro ⟨binding, hbuild⟩ property hproperty
    have haccessors := ((build_eq_ok hlength).mp hbuild).2.2.1
    have hlt := hregular.ordinal_lt hproperty
    rw [← h.length_eq, haccessors, List.length_map] at hlt
    have haccessor : binding.accessors[property.ordinal]? = some binding.accessors[property.ordinal] :=
      List.getElem?_eq_getElem hlt
    rcases (h.accessor_of_build hregular hbuild _ _).mp haccessor with ⟨other, hother, hgiven⟩
    rw [hregular.getElem?.mpr ⟨hproperty, rfl⟩] at hother
    rcases Option.some.inj hother with rfl
    exact mem_names.mpr ⟨_, hgiven⟩
  · intro hall
    have hfull : ∀ slot ∈ builder.accessors, slot ∈ Set.range (some : Accessor σ → Option (Accessor σ)) := by
      intro slot hslot
      rcases List.mem_iff_getElem?.mp hslot with ⟨ordinal, hordinal⟩
      have hlt := (List.getElem?_eq_some_iff.mp hordinal).1
      rw [h.length_eq] at hlt
      rcases hregular.exists_getElem? hlt with ⟨property, hmem, rfl, -⟩
      rcases mem_names.mp (hall property hmem) with ⟨accessor, hgiven⟩
      have hbound := (h.bound property hmem accessor).mpr hgiven
      rw [hordinal] at hbound
      exact ⟨accessor, (Option.some.inj hbound).symm⟩
    have haccessors : builder.accessors ∈ Set.range (List.map (some : Accessor σ → Option (Accessor σ))) := by
      rw [Set.range_list_map]
      exact hfull
    rcases haccessors with ⟨accessors, haccessors⟩
    exact ⟨⟨builder.format, accessors, builder.slots⟩,
      (build_eq_ok hlength).mpr ⟨h.mistake_eq, rfl, haccessors.symm, rfl⟩⟩

end Holds

/-- A binding is built of any requests exactly when the names that they give are those of the properties, each once.
Its accessor at an ordinal is then the one that was given under the name of the property there, whatever the order
of the requests, and its access to the states the one that was given last.  Otherwise building is refused, and where
a request gave a name that no property has, or one that was given before, with what is wrong in the first such
request. -/
theorem built_iff_named_once {typeName : String} {declarations : List Declaration} {schema : Schema}
    {padding : RecordPadding} {format : RecordFormat} (hschema : Schema.build declarations = .ok schema)
    (hformat : RecordFormat.build typeName schema padding = .ok format) (requests : List (Request σ)) :
    ((∃ binding, ((start format).follow requests).build = .ok binding) ↔
      (names requests).Perm (schema.properties.map Property.name)) ∧
    (∀ binding : Binding σ, ((start format).follow requests).build = .ok binding →
      binding.format = format ∧ binding.slots = (requests.filterMap Request.access?).getLast? ∧
      ∀ (ordinal : Nat) (accessor : Accessor σ), binding.accessors[ordinal]? = some accessor ↔
        ∃ property : Property, schema.properties[ordinal]? = some property ∧
          .bind property.name accessor ∈ requests) ∧
    (¬ (names requests).Perm (schema.properties.map Property.name) →
      ∃ refusal, (liftM ((start format).follow requests).build : Except Fault (Binding σ)) =
        .error (.illegal refusal)) ∧
    ∀ before name accessor after refusal, requests = before ++ .bind name accessor :: after →
      Distinct schema before → Mistaken format before name refusal →
        (liftM ((start format).follow requests).build : Except Fault (Binding σ)) = .error (.illegal refusal) := by
  obtain rfl : format.schema = schema := RecordFormat.schema_of_build hformat
  have hregular := Schema.regular_of_build hschema
  have hbuilt : (∃ binding, ((start format).follow requests).build = .ok binding) ↔
      (names requests).Perm (format.schema.properties.map Property.name) := by
    rw [names_perm_iff hregular]
    rcases distinct_or_mistaken format requests with hdistinct | ⟨before, name, accessor, after, refusal, rfl, hbefore,
      hmistaken⟩
    · rw [(holds_follow hregular hdistinct).exists_build_iff hregular]
      exact ⟨fun hall => ⟨hdistinct, hall⟩, And.right⟩
    · rw [build_of_mistaken hregular hbefore hmistaken]
      simp [hmistaken.not_distinct]
  refine ⟨hbuilt, ?_, ?_, ?_⟩
  · intro binding hbinding
    have hdistinct := ((names_perm_iff hregular).mp (hbuilt.mp ⟨binding, hbinding⟩)).1
    have hholds := holds_follow hregular hdistinct
    have hslots := ((build_eq_ok (by rw [hholds.length_eq, hholds.format_eq])).mp hbinding).2.2.2
    rw [slots_follow] at hslots
    exact ⟨format_of_build hbinding, hslots, hholds.accessor_of_build hregular hbinding⟩
  · intro hnames
    rcases exists_error_iff.mpr (mt hbuilt.mp hnames) with ⟨refusal, hrefusal⟩
    exact ⟨refusal, by rw [hrefusal]; rfl⟩
  · rintro before name accessor after refusal rfl hbefore hmistaken
    rw [build_of_mistaken hregular hbefore hmistaken]
    rfl

/-- A property that always has the same value. -/
def constant (value : Value) : Accessor Unit where
  get host := (value, host)
  set _ := pure ()

/-- The names of a record in another order than its ordinals make a binding with the accessor of the rank at
ordinal 1.  A name given twice is reported, and not the unknown one behind it; a single name is too few. -/
theorem built_iff_named_once_interleaved :
    (∃ binding : Binding Unit, ((start RecordFormat.interleavedRecord).follow
        [.bind "reading" (constant .null), .bind "rank" (constant (.of (.signed .w16) 7)),
          .trackSlots ⟨fun _ => Slots.empty 4, fun _ host => host⟩, .bind "flag" (constant (.of .bool true)),
          .bind "label" (constant (.of .text "none"))]).build = .ok binding ∧
      binding.accessors[1]? = some (constant (.of (.signed .w16) 7))) ∧
    (liftM ((start RecordFormat.interleavedRecord).follow
        [.bind "flag" (constant .null), .bind "rank" (constant .null), .bind "flag" (constant (.of .bool true)),
          .bind "speed" (constant .null)]).build : Except Fault (Binding Unit)) =
      .error (.illegal (.boundTwice "flag")) ∧
    ∃ refusal, (liftM ((start RecordFormat.interleavedRecord).follow
        [.bind "rank" (constant .null)]).build : Except Fault (Binding Unit)) = .error (.illegal refusal) := by
  have hschema : Schema.build RecordFormat.interleaved = .ok RecordFormat.interleavedRecord.schema := rfl
  have hformat : RecordFormat.build "Interleaved" RecordFormat.interleavedRecord.schema
      RecordFormat.interleavedRecord.padding = .ok RecordFormat.interleavedRecord := rfl
  refine ⟨?_, ?_, ?_⟩
  · rcases (built_iff_named_once hschema hformat
        [.bind "reading" (constant .null), .bind "rank" (constant (.of (.signed .w16) 7)),
          .trackSlots ⟨fun _ => Slots.empty 4, fun _ host => host⟩, .bind "flag" (constant (.of .bool true)),
          .bind "label" (constant (.of .text "none"))]) with ⟨hbuilt, hmade, -, -⟩
    rcases hbuilt.mpr (by decide) with ⟨binding, hbinding⟩
    refine ⟨binding, hbinding, ((hmade binding hbinding).2.2 1 _).mpr ⟨_, rfl, ?_⟩⟩
    exact List.mem_cons_of_mem _ List.mem_cons_self
  · exact (built_iff_named_once hschema hformat _).2.2.2 [.bind "flag" (constant .null), .bind "rank" (constant .null)]
      "flag" (constant (.of .bool true)) [.bind "speed" (constant .null)] _ rfl ⟨by decide, by decide⟩
      (.twice (by decide) (by decide))
  · exact (built_iff_named_once hschema hformat [.bind "rank" (constant .null)]).2.2.1 (by decide)

end Builder
end Binding
end RecordBytes
