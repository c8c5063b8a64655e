import TagSchema.Catalog.Order
import TagSchema.Generation.Run
import TagSchema.Proofs.Flattening
import TagSchema.Proofs.Stepwise

/-!
# Locality of emission

What is emitted for a struct depends on the struct, its ancestors and what the names in their fields
denote. It depends neither on the handles of the definitions nor on the rest of the catalog.

Main results:

- `Tables.resolveFields_congr`: fields resolve alike when the names that they mention denote alike.
- `Tables.annotate_congr`: structs that look alike are annotated alike, their handles apart.
- `Catalog.looksAlike_of_subset`: more definitions that a struct does not mention change nothing.
- `Generator.emission_is_local`: structs that look alike add the same text to every target.
-/

namespace TagSchema

open Emission

namespace Tables

variable {t₁ t₂ : Tables} {r₁ r₂ : Registry} {id₁ : t₁.StructId} {id₂ : t₂.StructId}

/-! ## Names -/

/-- A name means the same to two tables with their registries: an equal enum, an equal bitfield, a
struct in both, or no definition and the same answer of the registries. -/
def DenotesAlike (t₁ t₂ : Tables) (r₁ r₂ : Registry) (name : String) : Prop :=
  match t₁.typeNamed? name, t₂.typeNamed? name with
  | some (.enumeration e₁), some (.enumeration e₂) => e₁ = e₂
  | some (.bitfield b₁), some (.bitfield b₂) => b₁ = b₂
  | some (.struct _), some (.struct _) => True
  | none, none => r₁.get? name = r₂.get? name
  | _, _ => False

/-- Names that refer to equal definitions denote alike with one registry. -/
theorem DenotesAlike.of_definitionNamed? {r : Registry} {name : String}
    (h : t₁.definitionNamed? name = t₂.definitionNamed? name) : DenotesAlike t₁ t₂ r r name := by
  unfold DenotesAlike
  unfold definitionNamed? at h
  cases htype : t₁.typeNamed? name with
  | none =>
      rw [htype, Option.map_none, eq_comm, Option.map_eq_none_iff] at h
      simp only [h]
  | some type =>
      cases hother : t₂.typeNamed? name with
      | none => simp [htype, hother] at h
      | some other => cases type <;> cases other <;> simp_all [entry]

/-- A name that denotes alike is a type of the same kind. -/
theorem DenotesAlike.namedKind? {name : String} (h : DenotesAlike t₁ t₂ r₁ r₂ name) :
    t₁.namedKind? r₁ name = t₂.namedKind? r₂ name := by
  unfold DenotesAlike at h
  unfold Tables.namedKind?
  split at h <;> simp_all

/-- A name that denotes alike is a struct to both tables or to none. -/
theorem DenotesAlike.struct_iff {name : String} (h : DenotesAlike t₁ t₂ r₁ r₂ name) :
    (∃ id, t₁.typeNamed? name = some (.struct id)) ↔
      ∃ id, t₂.typeNamed? name = some (.struct id) := by
  unfold DenotesAlike at h
  split at h <;> simp_all

/-! ## Resolution -/

/-- A field has the same type when the name that it mentions denotes alike. -/
theorem resolveType_congr {owner : String} {field : FieldDef}
    (h : ∀ name, mentioned? field = some name → DenotesAlike t₁ t₂ r₁ r₂ name) :
    t₁.resolveType r₁ owner field = t₂.resolveType r₂ owner field := by
  unfold resolveType
  cases htype : field.type with
  | named name =>
      have hname := h name (by simp [mentioned?, htype])
      simp only [hname.namedKind?]
  | reflexive =>
      cases htarget : field.target with
      | none => rfl
      | some target =>
          have hstruct := (h target (by simp [mentioned?, htype, htarget])).struct_iff
          simp only
          split
          · rename_i id hid
            obtain ⟨other, hother⟩ := hstruct.1 ⟨id, hid⟩
            rw [hother]
          · rename_i hnone
            split
            · rename_i other hother
              obtain ⟨id, hid⟩ := hstruct.2 ⟨other, hother⟩
              exact absurd hid (hnone id)
            · rfl
  | _ => rfl

/-- Fields resolve alike when the names that they mention denote alike. -/
theorem resolveFields_congr {fields : List FlatField}
    (h : ∀ flat ∈ fields, ∀ name, mentioned? flat.field = some name →
      DenotesAlike t₁ t₂ r₁ r₂ name) :
    t₁.resolveFields r₁ fields = t₂.resolveFields r₂ fields := by
  apply Stepwise.mapM_congr
  intro flat hflat
  unfold resolveField
  rw [resolveType_congr (h flat hflat)]

/-! ## Annotation -/

/-- A field of a struct or of one of its ancestors mentions a name. -/
def LineageMentions (t : Tables) (id : t.StructId) (name : String) : Prop :=
  ∃ level ∈ t.levels id, ∃ field ∈ level.fields, mentioned? field = some name

/-- Structs of two tables look alike: they are made of equal definitions, from the root of the
lineage down, and the names in the fields denote alike. -/
structure LooksAlike (t₁ t₂ : Tables) (r₁ r₂ : Registry) (id₁ : t₁.StructId)
    (id₂ : t₂.StructId) : Prop where
  levels : t₁.levels id₁ = t₂.levels id₂
  names : ∀ name, t₁.LineageMentions id₁ name → DenotesAlike t₁ t₂ r₁ r₂ name

/-- The last level of a struct is the struct itself. -/
theorem getLast?_levels (t : Tables) (id : t.StructId) :
    (t.levels id).getLast? = some (t.struct id) := by
  rw [levels, List.getLast?_map, List.getLast?_reverse, lineage, head?_ancestry, Option.map_some]

theorem struct_eq_of_levels (h : t₁.levels id₁ = t₂.levels id₂) :
    t₁.struct id₁ = t₂.struct id₂ := by
  have hlast := t₁.getLast?_levels id₁
  rw [h, getLast?_levels] at hlast
  exact (Option.some.inj hlast).symm

/-- Structs with the same levels expose the same fields. -/
theorem flatten_congr (h : t₁.levels id₁ = t₂.levels id₂) (placeholders : List String) :
    t₁.flatten placeholders id₁ = t₂.flatten placeholders id₂ := by
  simp only [flatten_eq, declaredFields, h, struct_eq_of_levels h]

/-- The fields that a struct exposes mention what its lineage mentions. -/
theorem lineageMentions_of_mem_flatten {t : Tables} {id : t.StructId} {placeholders : List String}
    {flat : FlatField} {name : String} (hflat : flat ∈ (t.flatten placeholders id).fields)
    (hname : mentioned? flat.field = some name) : t.LineageMentions id name := by
  rw [flatten_eq] at hflat
  have hdeclared := List.mem_of_mem_filter hflat
  simp only [declaredFields, List.mem_flatMap, StructDef.ownedFields, List.mem_map] at hdeclared
  obtain ⟨level, hlevel, field, hfield, rfl⟩ := hdeclared
  exact ⟨level, hlevel, field, hfield, hname⟩

/-- Structs that look alike are annotated alike, their handles apart, or fail with one fault. -/
theorem annotate_congr (h : LooksAlike t₁ t₂ r₁ r₂ id₁ id₂) (placeholders : List String) :
    (t₁.annotate r₁ placeholders id₁).map (fun a => (a.fields, a.groups)) =
      (t₂.annotate r₂ placeholders id₂).map (fun a => (a.fields, a.groups)) := by
  have hresolved := @resolveFields_congr t₁ t₂ r₁ r₂ (t₁.flatten placeholders id₁).fields
    fun flat hflat name hname => h.names name (lineageMentions_of_mem_flatten hflat hname)
  rw [flatten_congr h.levels] at hresolved
  simp only [annotate, flatten_congr h.levels, hresolved, struct_eq_of_levels h.levels]
  cases t₂.resolveFields r₂ (t₂.flatten placeholders id₂).fields with
  | error fault => rfl
  | ok resolved =>
      cases hfields : resolved.mapM (·.annotate (t₂.struct id₂).name) with
      | error fault => simp [bind, Except.bind, Except.map, hfields]
      | ok fields => simp [bind, Except.bind, Except.map, hfields, pure, Except.pure]

end Tables

/-! ## More definitions -/

namespace Catalog

variable {c₁ c₂ : Catalog} {id₁ : c₁.StructId} {id₂ : c₂.StructId}

/-- A struct is also in a catalog with more definitions. -/
theorem exists_struct_of_subset (hsub : c₁.definitions ⊆ c₂.definitions) (id₁ : c₁.StructId) :
    ∃ id₂, c₂.struct id₂ = c₁.struct id₁ :=
  Tables.struct_mem_definitions_iff.1 (hsub (Tables.struct_mem_definitions_iff.2 ⟨id₁, rfl⟩))

/-- Walks up from equal structs go through equal structs when one catalog has more definitions. -/
theorem map_struct_ancestry (hsub : c₁.definitions ⊆ c₂.definitions)
    (h : c₁.struct id₁ = c₂.struct id₂) (steps : Nat) :
    (c₁.ancestry steps id₁).map c₁.struct = (c₂.ancestry steps id₂).map c₂.struct := by
  induction steps generalizing id₁ id₂ with
  | zero => simp [Tables.ancestry, h]
  | succ steps ih =>
      cases hparent : c₁.parent? id₁ with
      | none =>
          have hroot : (c₁.struct id₁).inherits = none := by
            rw [Option.eq_none_iff_forall_not_mem]
            intro name hname
            obtain ⟨parent, hsome⟩ := c₁.exists_parent hname
            rw [hparent] at hsome
            cases hsome
          have hparent₂ : c₂.parent? id₂ = none := by rw [Tables.parent?, ← h, hroot]; rfl
          simp only [Tables.ancestry, hparent, hparent₂, List.map_cons, List.map_nil, h]
      | some parent₁ =>
          obtain ⟨parent₂, heq⟩ := exists_struct_of_subset hsub parent₁
          have hparent₂ : c₂.parent? id₂ = some parent₂ := by
            rw [parent?_eq_some_iff, ← h, heq]
            exact c₁.parent?_eq_some_iff.1 hparent
          simp only [Tables.ancestry, hparent, hparent₂, List.map_cons, h, ih heq.symm]

/-- Equal structs are made of equal definitions when one catalog has more definitions. -/
theorem levels_eq_of_subset (hsub : c₁.definitions ⊆ c₂.definitions)
    (h : c₁.struct id₁ = c₂.struct id₂) : c₁.levels id₁ = c₂.levels id₂ := by
  -- the bounds of the two walks differ, so both are taken as far as the larger one
  have hwalk := map_struct_ancestry hsub h (max c₁.structs.length c₂.structs.length)
  rw [c₁.ancestry_eq_lineage id₁ (le_max_left _ _),
    c₂.ancestry_eq_lineage id₂ (le_max_right _ _)] at hwalk
  rw [Tables.levels, Tables.levels, List.map_reverse, List.map_reverse, hwalk]

/-- A name refers to the same definition when no new definition has it. -/
theorem definitionNamed?_eq_of_subset (hsub : c₁.definitions ⊆ c₂.definitions) {name : String}
    (hold : ∀ d ∈ c₂.definitions, d.name = name → d ∈ c₁.definitions) :
    c₁.definitionNamed? name = c₂.definitionNamed? name := by
  ext d
  rw [definitionNamed?_eq_some_iff, definitionNamed?_eq_some_iff]
  constructor
  · rintro ⟨hd, hname⟩
    exact ⟨hsub hd, hname⟩
  · rintro ⟨hd, hname⟩
    exact ⟨hold d hd hname, hname⟩

/-- A struct looks alike in a catalog with more definitions, when its lineage mentions none of the
new ones. -/
theorem looksAlike_of_subset (hsub : c₁.definitions ⊆ c₂.definitions)
    (h : c₁.struct id₁ = c₂.struct id₂)
    (hnew : ∀ d ∈ c₂.definitions, d ∉ c₁.definitions → ¬ c₁.LineageMentions id₁ d.name)
    (r : Registry) : Tables.LooksAlike c₁.toTables c₂.toTables r r id₁ id₂ where
  levels := levels_eq_of_subset hsub h
  names := by
    intro name hmentions
    apply Tables.DenotesAlike.of_definitionNamed?
    apply definitionNamed?_eq_of_subset hsub
    rintro d hd rfl
    by_contra hnot
    exact hnew d hd hnot hmentions

/-- The definitions of a catalog are those that it was made of. -/
theorem mem_definitions_of_ofDefinitions {definitions : List Definition} {c : Catalog}
    (h : ofDefinitions definitions = .ok c) {d : Definition} :
    d ∈ c.definitions ↔ d ∈ definitions := by
  unfold ofDefinitions ofTables at h
  split at h
  · cases h
    exact Tables.mem_definitions_ofDefinitions
  · cases h

end Catalog

/-! ## Emission -/

namespace Emission

/-- No standard pass looks at the registry. -/
theorem Pass.standardEmit_registry (s : Subject) (r : Registry) (artifact : Artifact) :
    Pass.standardEmit { s with registry := r } artifact = Pass.standardEmit s artifact := by
  cases artifact <;> rfl

theorem Value.hooksDeclaration_registry (s : Subject) (r : Registry) :
    Value.hooksDeclaration { s with registry := r } = Value.hooksDeclaration s := rfl

end Emission

namespace Generator

variable {g₁ g₂ : Generator} {id₁ : g₁.StructId} {id₂ : g₂.StructId} {artifacts : List Artifact}

/-- What a struct adds to each target, or the fault that stops its emission. -/
def structText (g : Generator) (id : g.StructId) : Except SchemaError (Target → String) := do
  let emitted ← g.emitStruct id
  return fun target => writtenTo target emitted.writes

/-- Subjects of structs that look alike differ in the registry only. -/
theorem subject_congr (hconfig : g₁.config = g₂.config)
    (hstruct : g₁.catalog.struct id₁ = g₂.catalog.struct id₂) (ident : String) {a₁ a₂ : Annotated}
    (hfields : a₁.fields = a₂.fields) (hgroups : a₁.groups = a₂.groups) :
    g₁.subject id₁ ident a₁ = { g₂.subject id₂ ident a₂ with registry := g₁.registry } := by
  simp only [subject, hconfig, hstruct, hfields, hgroups]

/-- The standard passes write the same for subjects that differ in the registry only. -/
theorem mapM_passWrites_registry (s : Subject) (r : Registry) :
    (artifacts.map Pass.standard).mapM (passWrites { s with registry := r }) =
      (artifacts.map Pass.standard).mapM (passWrites s) := by
  apply Stepwise.mapM_congr
  intro pass hpass
  obtain ⟨artifact, _, rfl⟩ := List.mem_map.1 hpass
  simp only [passWrites, Pass.standard, Pass.standardEmit_registry]

/-- Structs that look alike are emitted alike, or fail with one fault. -/
theorem structText_congr (hconfig : g₁.config = g₂.config)
    (hpasses₁ : g₁.passes = artifacts.map Pass.standard)
    (hpasses₂ : g₂.passes = artifacts.map Pass.standard)
    (h : Tables.LooksAlike g₁.catalog.toTables g₂.catalog.toTables g₁.registry g₂.registry
      id₁ id₂) :
    g₁.structText id₁ = g₂.structText id₂ := by
  have hstruct := Tables.struct_eq_of_levels h.levels
  have hannotate := Tables.annotate_congr h g₁.config.placeholders
  unfold structText emitStruct annotate
  rw [hstruct]
  rw [hconfig] at hannotate ⊢
  cases requireIdentifier (g₂.catalog.struct id₂).name with
  | error fault => rfl
  | ok ident =>
      rcases Stepwise.of_map_eq_map hannotate with
        ⟨fault, hfault₁, hfault₂⟩ | ⟨a₁, a₂, ha₁, ha₂, heq⟩
      · rw [hfault₁, hfault₂]
        rfl
      · obtain ⟨hfields, hgroups⟩ := Prod.mk.inj heq
        have hsubject := subject_congr hconfig hstruct ident hfields hgroups
        simp only [ha₁, ha₂, bind, Except.bind, hpasses₁, hpasses₂, hsubject,
          mapM_passWrites_registry, Value.hooksDeclaration_registry]
        cases (artifacts.map Pass.standard).mapM (passWrites (g₂.subject id₂ ident a₂)) with
        | error fault => rfl
        | ok writes => rfl

/-- The generator that runs the standard passes of some concerns. -/
def standard (config : Config) (artifacts : List Artifact) (c : Catalog) (r : Registry) :
    Generator where
  catalog := c
  registry := r
  config := config
  passes := artifacts.map Pass.standard

/-- A struct adds the same text in a catalog with more definitions, when its lineage mentions none
of the new ones. -/
theorem exists_structText_of_subset {c₁ c₂ : Catalog} (config : Config) (artifacts : List Artifact)
    (r : Registry) (hsub : c₁.definitions ⊆ c₂.definitions) {id₁ : c₁.StructId}
    (hnew : ∀ d ∈ c₂.definitions, d ∉ c₁.definitions → ¬ c₁.LineageMentions id₁ d.name) :
    ∃ id₂, (c₂.struct id₂).name = (c₁.struct id₁).name ∧
      (standard config artifacts c₁ r).structText id₁ =
        (standard config artifacts c₂ r).structText id₂ := by
  obtain ⟨id₂, hstruct⟩ := Catalog.exists_struct_of_subset hsub id₁
  have halike := Catalog.looksAlike_of_subset hsub hstruct.symm hnew r
  exact ⟨id₂, congrArg StructDef.name hstruct, structText_congr rfl rfl rfl halike⟩

/-- Emission is local. With one configuration and the standard passes of any concerns, structs that
look alike add the same text to every target, or fail with the same fault. So definitions that a
struct does not mention may be added, and definitions may be permuted, without a change to what the
struct of a name adds. -/
theorem emission_is_local (config : Config) (artifacts : List Artifact) :
    (∀ (c₁ c₂ : Catalog) (r₁ r₂ : Registry) (id₁ : c₁.StructId) (id₂ : c₂.StructId),
      Tables.LooksAlike c₁.toTables c₂.toTables r₁ r₂ id₁ id₂ →
      (standard config artifacts c₁ r₁).structText id₁ =
        (standard config artifacts c₂ r₂).structText id₂) ∧
    (∀ (c₁ c₂ : Catalog) (r : Registry), c₁.definitions ⊆ c₂.definitions →
      ∀ id₁, (∀ d ∈ c₂.definitions, d ∉ c₁.definitions → ¬ c₁.LineageMentions id₁ d.name) →
      ∃ id₂, (c₂.struct id₂).name = (c₁.struct id₁).name ∧
        (standard config artifacts c₁ r).structText id₁ =
          (standard config artifacts c₂ r).structText id₂) ∧
    ∀ (ds₁ ds₂ : List Definition) (c₁ c₂ : Catalog) (r : Registry), ds₁.Perm ds₂ →
      Catalog.ofDefinitions ds₁ = .ok c₁ → Catalog.ofDefinitions ds₂ = .ok c₂ →
      ∀ id₁, ∃ id₂, (c₂.struct id₂).name = (c₁.struct id₁).name ∧
        (standard config artifacts c₁ r).structText id₁ =
          (standard config artifacts c₂ r).structText id₂ := by
  refine ⟨?_, ?_, ?_⟩
  · intro c₁ c₂ r₁ r₂ id₁ id₂ halike
    exact structText_congr rfl rfl rfl halike
  · intro c₁ c₂ r hsub id₁ hnew
    exact exists_structText_of_subset config artifacts r hsub hnew
  · intro ds₁ ds₂ c₁ c₂ r hperm hc₁ hc₂ id₁
    have hsame : ∀ d, d ∈ c₁.definitions ↔ d ∈ c₂.definitions := by
      intro d
      rw [Catalog.mem_definitions_of_ofDefinitions hc₁,
        Catalog.mem_definitions_of_ofDefinitions hc₂]
      exact hperm.mem_iff
    apply exists_structText_of_subset config artifacts r (fun d => (hsame d).1)
    intro d hd hnot
    exact absurd ((hsame d).2 hd) hnot

/-- A struct that mentions a struct, an enum and a type of the registry. -/
def depot : Catalog where
  enums := [{ name := "Grade", options := ["low", "high"] }]
  structs := [
    { name := "Weapon", inherits := some "Item",
      fields := [
        { memberName := "triggers", type := .reflexive, target := some "Trigger" },
        { memberName := "grade", type := .named "Grade" },
        { memberName := "spread", type := .named "Angle" }] },
    { name := "Trigger" },
    { name := "Item" }]
  faultless := by decide

/-- The same struct among other definitions, with another definition of the struct it mentions. -/
def arsenal : Catalog where
  enums := [
    { name := "Side", options := ["left"] },
    { name := "Grade", options := ["low", "high"] }]
  structs := [
    { name := "Item" },
    { name := "Trigger", fields := [{ memberName := "side", type := .named "Side" }] },
    { name := "Weapon", inherits := some "Item",
      fields := [
        { memberName := "triggers", type := .reflexive, target := some "Trigger" },
        { memberName := "grade", type := .named "Grade" },
        { memberName := "spread", type := .named "Angle" }] }]
  faultless := by decide

/-- The struct adds the same text in both catalogs, with registries that agree on one name. -/
theorem arsenal_emission_is_local :
    ∃ (weapon : depot.StructId) (other : arsenal.StructId) (text : Target → String),
      Tables.LooksAlike depot.toTables arsenal.toTables .engine ⟨[("Angle", .real)]⟩ weapon other ∧
      (standard {} Artifact.all depot .engine).structText weapon = .ok text ∧
      (standard {} Artifact.all arsenal ⟨[("Angle", .real)]⟩).structText other = .ok text := by
  let weapon : depot.StructId := ⟨0, by decide⟩
  let other : arsenal.StructId := ⟨2, by decide⟩
  have halike : Tables.LooksAlike depot.toTables arsenal.toTables .engine ⟨[("Angle", .real)]⟩
      weapon other := by
    refine ⟨by decide, ?_⟩
    rintro name ⟨level, hlevel, field, hfield, hname⟩
    have hmem : name ∈ ["Trigger", "Grade", "Angle"] := by
      have hnames : (depot.levels weapon).flatMap (·.fields.filterMap Tables.mentioned?) =
          ["Trigger", "Grade", "Angle"] := by decide
      rw [← hnames, List.mem_flatMap]
      exact ⟨level, hlevel, List.mem_filterMap.2 ⟨field, hfield, hname⟩⟩
    simp only [List.mem_cons, List.not_mem_nil, or_false] at hmem
    rcases hmem with rfl | rfl | rfl
    · trivial
    · exact (rfl : (⟨"Grade", ["low", "high"]⟩ : EnumDef) = _)
    · exact (by decide : Registry.engine.get? "Angle" = some ValueClass.real)
  have hsame := (emission_is_local {} Artifact.all).1 _ _ _ _ weapon other halike
  have hok : ((standard {} Artifact.all depot .engine).structText weapon).isOk = true := by
    decide +kernel
  cases htext : (standard {} Artifact.all depot .engine).structText weapon with
  | ok text => exact ⟨weapon, other, text, halike, htext, hsame ▸ htext⟩
  | error fault => simp [htext, Except.isOk, Except.toBool] at hok

end Generator
end TagSchema
