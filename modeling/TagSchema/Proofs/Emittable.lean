import TagSchema.Proofs.AnnotatedFields
import TagSchema.Proofs.Coverage

/-!
# What can be generated

A struct can be emitted by the standard passes under conditions on its own declaration and on the
fields that it exposes. A run over all structs succeeds exactly when every struct meets them.

Main results:

- `Emission.exists_standardEmit_iff`: what the standard passes ask of a struct.
- `Generator.exists_emitStruct_iff`: the structs that can be emitted.
- `Generator.generate_succeeds_iff`: the catalogs that can be generated.
-/

namespace TagSchema

open Emission

/-! ## Passes -/

namespace Emission

variable {s : Subject} {field : AnnotatedField} {struct : String}

/-- A title is accepted when it names a field. -/
theorem Value.titleFault?_eq_none_iff :
    Value.titleFault? s = none ↔
      ∀ title, s.title = some title → ∃ field ∈ s.fields, field.name = title := by
  unfold Value.titleFault?
  cases s.title with
  | none => simp
  | some title => simp [List.any_eq_true]

namespace Validation

/-- There is a first option that is allowed unless all of them are excluded. -/
theorem exists_firstAllowed?_iff {options : Nat} {excluded : List Nat} :
    (∃ reset, firstAllowed? options excluded = some reset) ↔
      ∃ position < options, position ∉ excluded := by
  rw [firstAllowed?, ← Option.isSome_iff_exists, List.find?_isSome]
  simp

/-- A guard needs an option that is not excluded. -/
theorem exists_enumGuard_iff {e : EnumDef} :
    (∃ guard, enumGuard struct e field = .ok guard) ↔
      ∃ position < e.options.length, position ∉ field.excludedOptions := by
  rw [← exists_firstAllowed?_iff, enumGuard]
  cases firstAllowed? e.options.length field.excludedOptions <;> simp

/-- A plain enum needs an option that is not excluded. -/
theorem exists_domainStep?_iff :
    (∃ step, domainStep? struct field = .ok step) ↔
      ∀ e, field.type.enum? = some e → field.type.isPlain = true →
        ∃ position < e.options.length, position ∉ field.excludedOptions := by
  unfold domainStep?
  cases field.type.enum? with
  | none => cases field.type.bitfield?.filter fun _ => field.type.isPlain <;> simp
  | some e =>
      by_cases hplain : field.type.isPlain = true
      · simp only [hplain, Option.filter_some, Option.some.injEq, forall_eq', if_true,
          forall_const]
        rw [← exists_enumGuard_iff, Stepwise.exists_bind_pure_iff]
      · cases field.type.bitfield?.filter fun _ => field.type.isPlain <;> simp [hplain]

/-- A name is found among nested sequences when one of them has it. -/
theorem exists_sequence?_iff {name : String} :
    (∃ sequence, sequence? s name = some sequence) ↔
      ∃ field ∈ s.fields, field.name = name ∧ field.type.isReflexive = true := by
  rw [sequence?, ← Option.isSome_iff_exists, List.find?_isSome]
  simp

/-- An index needs the sequence that it points into. -/
theorem exists_indexStep?_iff :
    (∃ step, indexStep? s field = .ok step) ↔
      ∀ target, field.definition.indexOf = some target → field.type.isIndex = true →
        ∃ sequence ∈ s.fields, sequence.name = target ∧ sequence.type.isReflexive = true := by
  unfold indexStep?
  simp only [← exists_sequence?_iff]
  cases field.definition.indexOf with
  | none => simp
  | some target =>
      by_cases hindex : field.type.isIndex = true
      · simp only [hindex, Option.filter_some, if_true]
        cases hsequence : sequence? s target <;> simp [hsequence]
      · simp [hindex]

/-- Domains can be checked when each field has a step. -/
theorem exists_domains_iff :
    (∃ code, domains s = .ok code) ↔
      ∀ field ∈ s.fields, ∃ step, domainStep? s.name field = .ok step := by
  rw [domains, Stepwise.exists_bind_pure_iff, domainBody, Stepwise.exists_bind_pure_iff,
    Stepwise.exists_mapM_iff]

/-- Indices can be checked when each field has a step. -/
theorem exists_indices_iff :
    (∃ code, indices s = .ok code) ↔
      ∀ field ∈ s.fields, ∃ step, indexStep? s field = .ok step := by
  rw [indices, Stepwise.exists_bind_pure_iff, indexBody, Stepwise.exists_bind_pure_iff,
    Stepwise.exists_mapM_iff]

end Validation

/-- Three of the standard passes can fail. -/
theorem exists_standardEmit_iff :
    (∀ pass ∈ Pass.standardPasses, ∃ emitted, pass.emit s = .ok emitted) ↔
      Value.titleFault? s = none ∧ (∃ code, Validation.domains s = .ok code) ∧
        ∃ code, Validation.indices s = .ok code := by
  have hpasses : (∀ pass ∈ Pass.standardPasses, ∃ emitted, pass.emit s = .ok emitted) ↔
      ∀ artifact, ∃ emitted, Pass.standardEmit s artifact = .ok emitted := by
    simp only [Pass.standardPasses, List.forall_mem_map]
    exact ⟨fun h artifact => h artifact (by cases artifact <;> decide),
      fun h artifact _ => h artifact⟩
  rw [hpasses]
  constructor
  · intro h
    refine ⟨?_, ?_, ?_⟩
    · obtain ⟨emitted, hemitted⟩ := h .structValue
      cases htitle : Value.titleFault? s with
      | none => rfl
      | some fault => simp [Pass.standardEmit, htitle] at hemitted
    · exact Stepwise.exists_bind_pure_iff.1 (h .checkBrokenEnums)
    · exact Stepwise.exists_bind_pure_iff.1 (h .checkInvalidIndices)
  · rintro ⟨htitle, hdomains, hindices⟩ artifact
    cases artifact with
    | structValue => exact ⟨_, by rw [Pass.standardEmit, htitle]; rfl⟩
    | checkBrokenEnums => exact Stepwise.exists_bind_pure_iff.2 hdomains
    | checkInvalidIndices => exact Stepwise.exists_bind_pure_iff.2 hindices
    | _ => exact ⟨_, rfl⟩

end Emission

/-! ## Structs -/

namespace Generator

variable (g : Generator)

/-- The type of a field that a struct exposes. -/
def HasType (flat : FlatField) (type : FieldType) : Prop :=
  g.catalog.resolveType g.registry flat.owner flat.field = .ok type

/-- An index points into a nested sequence that the struct exposes. -/
def PointsInto (id : g.StructId) (field : FieldDef) (type : FieldType) : Prop :=
  ∀ target, field.indexOf = some target → type.isIndex = true →
    ∃ other ∈ (g.flatten id).fields, ∃ otherType, g.HasType other otherType ∧
      other.field.memberName = target ∧ otherType.isReflexive = true

/-- What it takes for a struct to be emitted by the standard passes. -/
structure Emittable (id : g.StructId) : Prop where
  /-- The name of the struct is an identifier. -/
  name : (Text.identifier? (g.catalog.struct id).name).isSome = true
  /-- Every field has a type, an identifier, and no default that does not fit. -/
  resolved : ∀ flat ∈ (g.flatten id).fields, ∃ type, g.HasType flat type ∧
    (Text.identifier? flat.field.memberName).isSome = true ∧
    ∀ value, flat.field.initial = some value → type.fits value = true
  /-- Every exclusion that applies names an option or a bit. -/
  listed : ∀ flat ∈ (g.flatten id).fields, ∀ type, g.HasType flat type →
    flat.field.ExclusionsListed (g.catalog.struct id).name type
  /-- The title is the name of a member. -/
  title : ∀ title, (g.catalog.struct id).title = some title →
    ∃ flat ∈ (g.flatten id).fields, flat.field.memberName = title
  /-- Every enum without wrappers has an option that is not excluded. -/
  allowed : ∀ flat ∈ (g.flatten id).fields, ∀ type, g.HasType flat type →
    flat.field.LeavesOption (g.catalog.struct id).name type
  /-- Every index points into a nested sequence. -/
  target : ∀ flat ∈ (g.flatten id).fields, ∀ type, g.HasType flat type →
    g.PointsInto id flat.field type

variable {g} {id : g.StructId} {annotated : Annotated} {ident : String}

/-- A struct is emitted when it has an identifier, can be annotated and suits every pass. -/
theorem exists_emitStruct_iff :
    (∃ emitted, g.emitStruct id = .ok emitted) ↔
      ∃ ident, requireIdentifier (g.catalog.struct id).name = .ok ident ∧
        ∃ annotated, g.annotate id = .ok annotated ∧
          ∀ pass ∈ g.passes, ∃ emitted, pass.emit (g.subject id ident annotated) = .ok emitted := by
  rw [emitStruct, Stepwise.exists_bind_iff]
  refine exists_congr fun ident => and_congr_right fun _ => ?_
  rw [Stepwise.exists_bind_iff]
  refine exists_congr fun annotated => and_congr_right fun _ => ?_
  rw [Stepwise.exists_bind_pure_iff, Stepwise.exists_mapM_iff]
  simp only [passWrites, Stepwise.exists_bind_pure_iff]

/-! ## Conditions on annotated fields -/

section Conditions

variable (h : g.annotate id = .ok annotated)

include h

/-- A field of a struct that can be annotated is annotated with its type. -/
theorem exists_annotates_of_hasType {flat : FlatField} {type : FieldType}
    (hflat : flat ∈ (g.flatten id).fields) (htype : g.HasType flat type) :
    ∃ field, g.catalog.Annotates g.registry (g.catalog.struct id).name flat field ∧
      field.type = type := by
  obtain ⟨field, hfield⟩ := Tables.exists_annotate_iff.1 ⟨annotated, h⟩ flat hflat
  exact ⟨field, hfield, Except.ok.inj (hfield.type.symm.trans htype)⟩

variable {condition : AnnotatedField → Prop} (declared : FieldDef → FieldType → Prop)
  (hsame : ∀ flat field,
    g.catalog.Annotates g.registry (g.catalog.struct id).name flat field →
      (condition field ↔ declared flat.field field.type))

include hsame

/-- All annotated fields meet a condition when all fields that the struct exposes do. -/
theorem forall_annotated_iff :
    (∀ field ∈ annotated.fields, condition field) ↔
      ∀ flat ∈ (g.flatten id).fields, ∀ type, g.HasType flat type →
        declared flat.field type := by
  constructor
  · intro hall flat hflat type htype
    obtain ⟨field, hfield, rfl⟩ := exists_annotates_of_hasType h hflat htype
    rw [← hsame flat field hfield]
    exact hall field ((Tables.mem_annotated_iff h).2 ⟨flat, hflat, hfield⟩)
  · intro hall field hfield
    obtain ⟨flat, hflat, hfield⟩ := (Tables.mem_annotated_iff h).1 hfield
    rw [hsame flat field hfield]
    exact hall flat hflat field.type hfield.type

/-- Some annotated field meets a condition when some field that the struct exposes does. -/
theorem exists_annotated_iff :
    (∃ field ∈ annotated.fields, condition field) ↔
      ∃ flat ∈ (g.flatten id).fields, ∃ type, g.HasType flat type ∧ declared flat.field type := by
  constructor
  · rintro ⟨field, hfield, hcondition⟩
    obtain ⟨flat, hflat, hfield⟩ := (Tables.mem_annotated_iff h).1 hfield
    exact ⟨flat, hflat, field.type, hfield.type, (hsame flat field hfield).1 hcondition⟩
  · rintro ⟨flat, hflat, type, htype, hdeclared⟩
    obtain ⟨field, hfield, rfl⟩ := exists_annotates_of_hasType h hflat htype
    exact ⟨field, (Tables.mem_annotated_iff h).2 ⟨flat, hflat, hfield⟩,
      (hsame flat field hfield).2 hdeclared⟩

end Conditions

/-- The title of a struct has to be a member. -/
theorem titleFault?_subject_eq_none_iff (h : g.annotate id = .ok annotated) :
    Value.titleFault? (g.subject id ident annotated) = none ↔
      ∀ title, (g.catalog.struct id).title = some title →
        ∃ flat ∈ (g.flatten id).fields, flat.field.memberName = title := by
  rw [Value.titleFault?_eq_none_iff]
  refine forall_congr' fun title => imp_congr_right fun _ => ?_
  rw [subject, exists_annotated_iff h fun field _ => field.memberName = title]
  · refine exists_congr fun flat => and_congr_right fun hflat => ?_
    obtain ⟨field, hfield⟩ := Tables.exists_annotate_iff.1 ⟨annotated, h⟩ flat hflat
    exact ⟨fun ⟨_, _, htitle⟩ => htitle, fun htitle => ⟨field.type, hfield.type, htitle⟩⟩
  · intro flat field hfield
    rw [ResolvedField.name, hfield.definition]

/-- Every enum without wrappers has to keep an option. -/
theorem exists_domains_subject_iff (h : g.annotate id = .ok annotated) :
    (∃ code, Validation.domains (g.subject id ident annotated) = .ok code) ↔
      ∀ flat ∈ (g.flatten id).fields, ∀ type, g.HasType flat type →
        flat.field.LeavesOption (g.catalog.struct id).name type := by
  rw [Validation.exists_domains_iff, subject]
  refine forall_annotated_iff h (fun field => field.LeavesOption (g.catalog.struct id).name) ?_
  intro flat field hfield
  rw [Validation.exists_domainStep?_iff]
  refine forall_congr' fun e => forall_congr' fun henum => imp_congr_right fun _ => ?_
  simp only [hfield.mem_excludedOptions henum, mem_applicable]
  simp

/-- Every index has to point into a nested sequence. -/
theorem exists_indices_subject_iff (h : g.annotate id = .ok annotated) :
    (∃ code, Validation.indices (g.subject id ident annotated) = .ok code) ↔
      ∀ flat ∈ (g.flatten id).fields, ∀ type, g.HasType flat type →
        g.PointsInto id flat.field type := by
  rw [Validation.exists_indices_iff, subject]
  refine forall_annotated_iff h (g.PointsInto id) ?_
  intro flat field hfield
  rw [Validation.exists_indexStep?_iff, hfield.definition]
  refine forall_congr' fun target => imp_congr_right fun _ => imp_congr_right fun _ => ?_
  refine exists_annotated_iff h
    (fun field type => field.memberName = target ∧ type.isReflexive = true) ?_
  intro other sequence hsequence
  rw [ResolvedField.name, hsequence.definition]

/-- A struct can be annotated when its fields can be resolved and their exclusions are listed. -/
theorem exists_annotate_iff :
    (∃ annotated, g.annotate id = .ok annotated) ↔
      (∀ flat ∈ (g.flatten id).fields, ∃ type, g.HasType flat type ∧
        (Text.identifier? flat.field.memberName).isSome = true ∧
        ∀ value, flat.field.initial = some value → type.fits value = true) ∧
      ∀ flat ∈ (g.flatten id).fields, ∀ type, g.HasType flat type →
        flat.field.ExclusionsListed (g.catalog.struct id).name type := by
  rw [annotate, Tables.exists_annotate_iff]
  simp only [Tables.exists_annotates_iff]
  constructor
  · intro hall
    refine ⟨fun flat hflat => ?_, fun flat hflat type htype => ?_⟩
    · obtain ⟨type, htype, hident, hfits, _⟩ := hall flat hflat
      exact ⟨type, htype, hident, hfits⟩
    · obtain ⟨other, hother, _, _, hlisted⟩ := hall flat hflat
      cases hother.symm.trans htype
      exact hlisted
  · rintro ⟨hresolved, hlisted⟩ flat hflat
    obtain ⟨type, htype, hident, hfits⟩ := hresolved flat hflat
    exact ⟨type, htype, hident, hfits, hlisted flat hflat type htype⟩

/-- The standard passes emit exactly the structs that meet the conditions. -/
theorem exists_emitStruct_iff_emittable (hpasses : g.passes = Pass.standardPasses) :
    (∃ emitted, g.emitStruct id = .ok emitted) ↔ g.Emittable id := by
  rw [exists_emitStruct_iff, hpasses]
  constructor
  · rintro ⟨ident, hident, annotated, hannotated, hemitted⟩
    obtain ⟨htitle, hdomains, hindices⟩ := exists_standardEmit_iff.1 hemitted
    obtain ⟨hresolved, hlisted⟩ := exists_annotate_iff.1 ⟨annotated, hannotated⟩
    exact {
      name := exists_requireIdentifier_iff.1 ⟨ident, hident⟩
      resolved := hresolved
      listed := hlisted
      title := (titleFault?_subject_eq_none_iff hannotated).1 htitle
      allowed := (exists_domains_subject_iff hannotated).1 hdomains
      target := (exists_indices_subject_iff hannotated).1 hindices }
  · intro h
    obtain ⟨ident, hident⟩ := exists_requireIdentifier_iff.2 h.name
    obtain ⟨annotated, hannotated⟩ := exists_annotate_iff.2 ⟨h.resolved, h.listed⟩
    refine ⟨ident, hident, annotated, hannotated, exists_standardEmit_iff.2 ⟨?_, ?_, ?_⟩⟩
    · exact (titleFault?_subject_eq_none_iff hannotated).2 h.title
    · exact (exists_domains_subject_iff hannotated).2 h.allowed
    · exact (exists_indices_subject_iff hannotated).2 h.target

/-- A run over all structs succeeds when every struct can be emitted. -/
theorem exists_generate_iff :
    (∃ generated, g.generate = .ok generated) ↔ ∀ id, ∃ emitted, g.emitStruct id = .ok emitted := by
  constructor
  · rintro ⟨generated, hgenerated⟩ id
    exact exists_emitted_of_run hgenerated id (g.catalog.mem_dependencyOrder id)
  · intro hall
    choose emitted hemitted using hall
    obtain ⟨generated, hgenerated, _⟩ := g.generate_of_emitted hemitted
    exact ⟨generated, hgenerated⟩

/-- With the standard passes a run over all structs of a catalog succeeds exactly when, for every
struct, its name is an identifier; every field that it exposes has a type, an identifier and no
default that does not fit; every exclusion that applies to it names an option or a bit; its title is
a member; every enum without wrappers keeps an option; and every index points into a nested
sequence. -/
theorem generate_succeeds_iff (catalog : Catalog) (registry : Registry) (config : Config) :
    (∃ generated, (mk catalog registry config Pass.standardPasses).generate = .ok generated) ↔
      ∀ id, (mk catalog registry config Pass.standardPasses).Emittable id := by
  rw [exists_generate_iff]
  exact forall_congr' fun id => exists_emitStruct_iff_emittable rfl

/-- A catalog with a title, an index into an inherited sequence, and an enum with exclusions that
only one struct has. -/
def rig (excluded : List ExcludeEntry) : Catalog where
  enums := [{ name := "Grade", options := ["low", "high"] }]
  structs := [
    { name := "Rig", inherits := some "Frame", title := some "chosen",
      fields := [{ memberName := "chosen", type := .named "Index", indexOf := some "parts" }] },
    { name := "Frame",
      fields := [
        { memberName := "parts", type := .reflexive, target := some "Part" },
        { memberName := "grade", type := .named "Grade", exclude := excluded }] },
    { name := "Part" }]
  faultless := rfl

/-- The catalog is generated when one option is excluded and not when both are. -/
theorem rig_succeeds_iff :
    (∀ id, (mk (rig [⟨"low", some ["Rig"]⟩]) .engine {} Pass.standardPasses).Emittable id) ∧
      ¬ ∀ id, (mk (rig [⟨"low", some ["Rig"]⟩, ⟨"high", some ["Rig"]⟩]) .engine {}
        Pass.standardPasses).Emittable id := by
  constructor
  · rw [← generate_succeeds_iff]
    exact Stepwise.exists_ok_of_isOk (by decide +kernel)
  · rw [← generate_succeeds_iff]
    rintro ⟨generated, hgenerated⟩
    obtain ⟨fault, hfault⟩ := Stepwise.exists_error_of_isOk (show
      (mk (rig [⟨"low", some ["Rig"]⟩, ⟨"high", some ["Rig"]⟩]) .engine {}
        Pass.standardPasses).generate.isOk = false by decide +kernel)
    rw [hfault] at hgenerated
    cases hgenerated

end Generator
end TagSchema
