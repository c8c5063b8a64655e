import TagSchema.Proofs.AnnotatedFields
import TagSchema.Proofs.Concatenation
import TagSchema.Proofs.Flattening
import TagSchema.Proofs.Layout

/-!
# Inherited fields come first

A struct exposes the fields of its parent and then its own. So its resolved fields start with those
of every ancestor, and the members and initial values that are declared for it do as well. A
position stands for the same field in a struct and in its descendants, whatever each of them
excludes there.

Main results:

- `Catalog.fields_flatten_of_parent`: the fields that a struct exposes.
- `Catalog.fields_flatten_prefix`: the fields of an ancestor come first.
- `Emission.Value.declaration_eq_frame`: the declaration of a struct, member by member.
- `Generator.get?_exclusions_iff`: what the table of a struct holds at a position.
- `Generator.inherited_fields_come_first`: resolution, declarations and exclusions.
-/

namespace TagSchema

open Emission

/-! ## Exposed fields -/

/-- The fields that a struct declares itself and exposes. -/
def Tables.ownFields (t : Tables) (placeholders : List String) (id : t.StructId) :
    List FlatField :=
  ((t.struct id).fields.map (FlatField.mk (t.struct id).name)).filter
    (!·.field.isElided placeholders)

namespace Catalog

variable {c : Catalog} {id parent ancestor : c.StructId}

/-- The levels of a struct are those of its parent and then its own. -/
theorem levels_of_parent (h : c.parent? id = some parent) :
    c.levels id = c.levels parent ++ [c.struct id] := by
  simp [Tables.levels, lineage_of_parent h]

/-- A struct exposes what its parent exposes, and then its own fields. -/
theorem fields_flatten_of_parent (h : c.parent? id = some parent) (placeholders : List String) :
    (c.flatten placeholders id).fields =
      (c.flatten placeholders parent).fields ++ c.ownFields placeholders id := by
  simp only [Tables.flatten_eq, Tables.declaredFields, levels_of_parent h, List.flatMap_append,
    List.flatMap_singleton, List.filter_append, Tables.ownFields, StructDef.ownedFields]

/-- The fields of an ancestor come first. -/
theorem fields_flatten_prefix (h : c.Ancestor id ancestor) (placeholders : List String) :
    (c.flatten placeholders ancestor).fields <+: (c.flatten placeholders id).fields := by
  have hparent : ∀ {id parent : c.StructId}, c.Inherits id parent →
      (c.flatten placeholders parent).fields <+: (c.flatten placeholders id).fields := by
    intro id parent hinherits
    rw [fields_flatten_of_parent hinherits]
    exact List.prefix_append _ _
  induction h with
  | single hinherits => exact hparent hinherits
  | tail _ hinherits ih => exact (hparent hinherits).trans ih

end Catalog

/-! ## Annotated fields -/

/-- Annotation keeps the resolved fields. -/
theorem ResolvedField.map_toResolvedField_of_mapM {struct : String} {resolved : List ResolvedField}
    {fields : List AnnotatedField} (h : resolved.mapM (·.annotate struct) = .ok fields) :
    fields.map (·.toResolvedField) = resolved := by
  have hkept := Stepwise.map_eq_of_mapM h fun _ _ hfield => (annotate_eq_ok hfield).1
  rwa [List.map_id'] at hkept

namespace Tables

variable {t : Tables} {registry : Registry} {placeholders : List String} {id : t.StructId}
  {annotated : Annotated}

/-- The fields of an annotated struct are resolved ones, in order. -/
theorem resolveFields_of_annotate (h : t.annotate registry placeholders id = .ok annotated) :
    t.resolveFields registry (t.flatten placeholders id).fields =
      .ok (annotated.fields.map (·.toResolvedField)) := by
  simp only [annotate, Stepwise.bind_eq_ok_iff] at h
  obtain ⟨resolved, hresolved, fields, hfields, hannotated⟩ := h
  cases hannotated
  rw [hresolved, ResolvedField.map_toResolvedField_of_mapM hfields]

/-- An annotated field has the exclusion that it has in its struct. -/
theorem exclusionIn_of_annotate (h : t.annotate registry placeholders id = .ok annotated)
    {field : AnnotatedField} (hfield : field ∈ annotated.fields) :
    field.toResolvedField.exclusionIn (t.struct id).name = .ok field.exclusion := by
  obtain ⟨flat, _, resolved, _, hannotated⟩ := (mem_annotated_iff h).1 hfield
  obtain ⟨hresolved, hexclusion⟩ := ResolvedField.annotate_eq_ok hannotated
  rw [hresolved, hexclusion]

end Tables

/-! ## Declarations -/

namespace Emission
namespace Value

open Text

/-- A member as it stands in the declaration of a struct. -/
def memberText (field : AnnotatedField) : String :=
  indent 1 (member field)

/-- An initial value as it stands in the declaration of a struct. -/
def initializerText (field : AnnotatedField) : String :=
  indent 1 (indent 1 (indent 1 (initializer field)))

/-- The declaration of a struct around its members and initial values. -/
def frame (ident : String) (members initializers : List String) : String :=
  "#[derive(Debug, Clone)]\npub struct " ++ ident ++ " \x7b\n" ++ String.join members ++
    "\x7d\n\nimpl Default for " ++ ident ++
    " \x7b\n    fn default() -> Self \x7b\n        Self \x7b\n" ++
    String.join initializers ++ "        \x7d\n    \x7d\n\x7d\n\n"

theorem complete_member (field : AnnotatedField) : Complete (member field) := by
  have hline : member field = String.join (commentLines field) ++ "pub " ++ field.ident ++ ": " ++
      field.type.spelling ++ "," ++ "\n" := by
    simp only [member, String.append_assoc]
    rfl
  rw [hline]
  exact Complete.line _

theorem complete_initializer (field : AnnotatedField) : Complete (initializer field) := by
  have hline :
      initializer field = field.ident ++ ": " ++ initialExpression field ++ "," ++ "\n" := by
    simp only [initializer, String.append_assoc]
    rfl
  rw [hline]
  exact Complete.line _

/-- Members are indented one by one. -/
theorem indent_members (fields : List AnnotatedField) :
    indent 1 (String.join (fields.map member)) = String.join (fields.map memberText) := by
  rw [indent_join, List.map_map]
  · rfl
  · simp [complete_member]

theorem indent_initializers (fields : List AnnotatedField) :
    indent 1 (indent 1 (indent 1 (String.join (fields.map initializer)))) =
      String.join (fields.map initializerText) := by
  rw [indent_join, indent_join, indent_join, List.map_map, List.map_map, List.map_map]
  · rfl
  · simp [complete_indent]
  · simp [complete_indent]
  · simp [complete_initializer]

/-- The members and the initial values of a struct stand in its declaration one after the other. -/
theorem declaration_eq_frame (s : Subject) :
    declaration s = frame s.ident (s.fields.map memberText) (s.fields.map initializerText) := by
  have hsignature : indent 1 ("fn default() -> Self" ++ " \x7b" ++ "\n") =
      "    fn default() -> Self \x7b\n" := by decide +kernel
  have hself : indent 1 (indent 1 ("Self" ++ " \x7b" ++ "\n")) = "        Self \x7b\n" := by
    decide +kernel
  have hinner : indent 1 (indent 1 ("\x7d" ++ "\n")) = "        \x7d\n" := by decide +kernel
  have houter : indent 1 ("\x7d" ++ "\n") = "    \x7d\n" := by decide +kernel
  -- every other line of the declaration is a fixed text, so only the two lists remain
  unfold declaration frame
  rw [implBlock, method, String.intercalate_singleton, headed, headed, headed, headed, enclose,
    enclose, indent_enclose_enclose, indent_members, indent_initializers, hsignature, hself,
    hinner, houter, ← String.toList_inj]
  simp

/-- The standard pass declares the struct as it is. -/
theorem declarations_of_standardEmit {s : Subject} {emitted : Emitted}
    (h : Pass.standardEmit s .structValue = .ok emitted) :
    emitted.declarations =
      frame s.ident (s.fields.map memberText) (s.fields.map initializerText) := by
  rw [← declaration_eq_frame]
  simp only [Pass.standardEmit] at h
  cases htitle : titleFault? s with
  | some fault => simp [htitle] at h
  | none =>
      simp only [htitle] at h
      cases h
      rfl

/-- What is declared of a field depends on how it is resolved, not on what it may not hold. -/
theorem memberText_congr (field : AnnotatedField) :
    memberText field = memberText ⟨field.toResolvedField, none⟩ := rfl

/-- Exclusions do not show in initial values. -/
theorem initializerText_congr (field : AnnotatedField) :
    initializerText field = initializerText ⟨field.toResolvedField, none⟩ := rfl

/-- When resolved fields start with others, so does what is declared of them. -/
theorem map_eq_append {f : AnnotatedField → String} {inherited fields : List AnnotatedField}
    (hf : ∀ field : AnnotatedField, f field = f ⟨field.toResolvedField, none⟩)
    (h : inherited.map (·.toResolvedField) <+: fields.map (·.toResolvedField)) :
    fields.map f = inherited.map f ++ (fields.drop inherited.length).map f := by
  have hmap : ∀ fields : List AnnotatedField,
      fields.map f = (fields.map (·.toResolvedField)).map fun field => f ⟨field, none⟩ := by
    intro fields
    rw [List.map_map]
    exact List.map_congr_left fun field _ => hf field
  have hprefix : inherited.map f <+: fields.map f := by
    rw [hmap, hmap]
    exact h.map _
  rw [List.prefix_iff_eq_append, List.length_map, ← List.map_drop] at hprefix
  exact hprefix.symm

end Value
end Emission

/-! ## Ancestors -/

/-- A field excludes something in a struct. -/
def ResolvedField.Excludes (field : ResolvedField) (struct : String)
    (exclusion : Exclusion) : Prop :=
  field.exclusionIn struct = .ok (some exclusion) ∧ exclusion.isEmpty = false

namespace Generator

variable {g : Generator} {id parent ancestor : g.StructId} {annotated inherited : Annotated}

/-- The fields of a struct are resolved after those of its parent. -/
theorem resolveFields_of_parent (h : g.catalog.parent? id = some parent) :
    g.catalog.resolveFields g.registry (g.flatten id).fields =
      g.catalog.resolveFields g.registry (g.flatten parent).fields >>= fun inherited =>
        (g.catalog.resolveFields g.registry (g.catalog.ownFields g.config.placeholders id)).map
          (inherited ++ ·) := by
  rw [flatten, Catalog.fields_flatten_of_parent h, Tables.resolveFields, List.mapM_append]
  rfl

/-- A struct starts with the resolved fields of its ancestor. -/
theorem resolved_prefix (h : g.catalog.Ancestor id ancestor)
    (hannotated : g.annotate id = .ok annotated)
    (hinherited : g.annotate ancestor = .ok inherited) :
    inherited.fields.map (·.toResolvedField) <+: annotated.fields.map (·.toResolvedField) :=
  Stepwise.prefix_of_mapM (Catalog.fields_flatten_prefix h g.config.placeholders)
    (Tables.resolveFields_of_annotate hinherited) (Tables.resolveFields_of_annotate hannotated)

/-- The table of a struct holds at a position what the field there excludes. -/
theorem get?_exclusions_iff (h : g.annotate id = .ok annotated) {position : Nat}
    {field : AnnotatedField} (hfield : annotated.fields[position]? = some field)
    {exclusion : Exclusion} :
    annotated.exclusions.get? ⟨id, position⟩ = some exclusion ↔
      field.toResolvedField.Excludes (g.catalog.struct id).name exclusion := by
  have hexclusion := Tables.exclusionIn_of_annotate h (List.mem_of_getElem? hfield)
  rw [← id_of_annotate h, Annotated.get?_exclusions, hfield, ResolvedField.Excludes, hexclusion]
  simp [Option.filter_eq_some_iff]

/-- A struct that is ready for emission starts with one of its ancestors. -/
structure StartsWith (g : Generator) (id ancestor : g.StructId) (annotated inherited : Annotated) :
    Prop where
  /-- Its resolved fields start with those of the ancestor: the same owners, identifiers, types and
  initial values. -/
  fields : inherited.fields.map (·.toResolvedField) <+: annotated.fields.map (·.toResolvedField)
  /-- The members and initial values that are declared for it start with those that are declared for
  the ancestor. -/
  declarations : ∀ ident emitted,
    Pass.standardEmit (g.subject id ident annotated) .structValue = .ok emitted →
    ∀ other base, Pass.standardEmit (g.subject ancestor other inherited) .structValue = .ok base →
    ∃ own, annotated.fields = annotated.fields.take inherited.fields.length ++ own ∧
      base.declarations = Value.frame other (inherited.fields.map Value.memberText)
        (inherited.fields.map Value.initializerText) ∧
      emitted.declarations = Value.frame ident
        (inherited.fields.map Value.memberText ++ own.map Value.memberText)
        (inherited.fields.map Value.initializerText ++ own.map Value.initializerText)
  /-- A position of the ancestor stands for the same field in both, and each table has an entry
  there exactly when this field excludes something in its struct. -/
  positions : ∀ position < inherited.fields.length, ∃ field,
    inherited.fields[position]?.map (·.toResolvedField) = some field ∧
    annotated.fields[position]?.map (·.toResolvedField) = some field ∧
    (∀ exclusion, inherited.exclusions.get? ⟨ancestor, position⟩ = some exclusion ↔
      field.Excludes (g.catalog.struct ancestor).name exclusion) ∧
    ∀ exclusion, annotated.exclusions.get? ⟨id, position⟩ = some exclusion ↔
      field.Excludes (g.catalog.struct id).name exclusion
  /-- The table of the ancestor has entries at its own positions only. -/
  beyond : ∀ position, inherited.fields.length ≤ position →
    inherited.exclusions.get? ⟨ancestor, position⟩ = none

/-- The declaration of a struct of a generator. -/
theorem declarations_of_subject {ident : String} {emitted : Emitted}
    (h : Pass.standardEmit (g.subject id ident annotated) .structValue = .ok emitted) :
    emitted.declarations = Value.frame ident (annotated.fields.map Value.memberText)
      (annotated.fields.map Value.initializerText) := by
  have hdeclared := Value.declarations_of_standardEmit h
  simp only [subject] at hdeclared
  exact hdeclared

/-- A struct starts with each of its ancestors. -/
theorem startsWith_ancestor (h : g.catalog.Ancestor id ancestor)
    (hannotated : g.annotate id = .ok annotated)
    (hinherited : g.annotate ancestor = .ok inherited) :
    g.StartsWith id ancestor annotated inherited where
  fields := resolved_prefix h hannotated hinherited
  declarations := by
    intro ident emitted hemitted other base hbase
    have hprefix := resolved_prefix h hannotated hinherited
    have hmembers := Value.map_eq_append Value.memberText_congr hprefix
    have hinitializers := Value.map_eq_append Value.initializerText_congr hprefix
    have hdeclared := declarations_of_subject hemitted
    rw [hmembers, hinitializers] at hdeclared
    exact ⟨annotated.fields.drop inherited.fields.length, (List.take_append_drop _ _).symm,
      declarations_of_subject hbase, hdeclared⟩
  positions := by
    intro position hposition
    obtain ⟨field, hfield⟩ : ∃ field, inherited.fields[position]? = some field :=
      ⟨_, List.getElem?_eq_getElem hposition⟩
    obtain ⟨own, hfields⟩ := resolved_prefix h hannotated hinherited
    have hsame :
        annotated.fields[position]?.map (·.toResolvedField) = some field.toResolvedField := by
      rw [← List.getElem?_map, ← hfields, List.getElem?_append_left (by simpa using hposition),
        List.getElem?_map, hfield]
      rfl
    obtain ⟨other, hother, heq⟩ := Option.map_eq_some_iff.1 hsame
    refine ⟨field.toResolvedField, by rw [hfield]; rfl, hsame,
      fun _ => get?_exclusions_iff hinherited hfield, fun _ => ?_⟩
    rw [get?_exclusions_iff hannotated hother, heq]
  beyond := by
    intro position hposition
    rw [← id_of_annotate hinherited, Annotated.get?_exclusions, List.getElem?_eq_none hposition]
    rfl

variable (g)

/-- Inherited fields come first. When the fields of a parent cannot be resolved, those of the struct
fail with the same fault; otherwise the struct has the resolved fields of its parent, followed by
its own fields that are not left out. At any depth, a struct that is ready for emission starts with
its ancestor: its resolved fields do, and so do the members and initial values that are declared for
it, and a position of the ancestor stands for the same field in the tables of both. -/
theorem inherited_fields_come_first :
    (∀ id parent, g.catalog.parent? id = some parent →
      (∀ fault,
        g.catalog.resolveFields g.registry (g.flatten parent).fields = .error fault →
        g.catalog.resolveFields g.registry (g.flatten id).fields = .error fault) ∧
      ∀ inherited,
        g.catalog.resolveFields g.registry (g.flatten parent).fields = .ok inherited →
        g.catalog.resolveFields g.registry (g.flatten id).fields =
          (g.catalog.resolveFields g.registry
            (g.catalog.ownFields g.config.placeholders id)).map (inherited ++ ·)) ∧
    ∀ id ancestor, g.catalog.Ancestor id ancestor → ∀ annotated inherited,
      g.annotate id = .ok annotated → g.annotate ancestor = .ok inherited →
        g.StartsWith id ancestor annotated inherited := by
  constructor
  · intro id parent hparent
    constructor
    · intro fault hfault
      rw [resolveFields_of_parent hparent, hfault]
      rfl
    · intro inherited hinherited
      rw [resolveFields_of_parent hparent, hinherited]
      rfl
  · intro id ancestor hancestor annotated inherited hannotated hinherited
    exact startsWith_ancestor hancestor hannotated hinherited

/-- A chain of three structs with padding, a placeholder, and an option that only the last one
excludes. -/
def workshop : Generator where
  catalog := {
    enums := [{ name := "Grade", options := ["low", "high"] }]
    structs := [
      { name := "Saber", inherits := some "Sword",
        fields := [{ memberName := "curve", type := .named "Angle" }] },
      { name := "Tool",
        fields := [
          .padding 4,
          { memberName := "grade", type := .named "Grade",
            exclude := [{ option := "low", scope := some ["Saber"] }] },
          { memberName := "spare", type := .reflexive, target := some "PredictedResource" }] },
      { name := "PredictedResource" },
      { name := "Sword", inherits := some "Tool",
        fields := [{ memberName := "owner", type := .named "Index" }] }]
    faultless := by decide }

/-- The last struct of the chain starts with the first one. Both tables key the same field by its
position, and only the last struct has an entry there. -/
theorem workshop_inherited_fields_come_first :
    ∃ saber sword tool : workshop.StructId,
      workshop.catalog.parent? saber = some sword ∧ workshop.catalog.parent? sword = some tool ∧
      (∃ resolved,
        workshop.catalog.resolveFields workshop.registry (workshop.flatten sword).fields =
          .ok resolved ∧ resolved.length = 2 ∧
        workshop.catalog.resolveFields workshop.registry (workshop.flatten saber).fields =
          (workshop.catalog.resolveFields workshop.registry
            (workshop.catalog.ownFields workshop.config.placeholders saber)).map (resolved ++ ·)) ∧
      ∃ annotated inherited, workshop.annotate saber = .ok annotated ∧
        workshop.annotate tool = .ok inherited ∧
        workshop.StartsWith saber tool annotated inherited ∧
        annotated.exclusions.get? ⟨saber, 0⟩ = some (.options [0]) ∧
        inherited.exclusions.get? ⟨tool, 0⟩ = none := by
  let saber : workshop.StructId := ⟨0, by decide⟩
  let sword : workshop.StructId := ⟨3, by decide⟩
  let tool : workshop.StructId := ⟨1, by decide⟩
  have hsaber : workshop.catalog.parent? saber = some sword := by decide +kernel
  have hsword : workshop.catalog.parent? sword = some tool := by decide +kernel
  have hancestor : workshop.catalog.Ancestor saber tool :=
    Relation.TransGen.tail (Relation.TransGen.single hsaber) hsword
  obtain ⟨resolved, hresolved⟩ := Stepwise.exists_ok_of_isOk (show
    (workshop.catalog.resolveFields workshop.registry (workshop.flatten sword).fields).isOk =
      true by decide +kernel)
  obtain ⟨annotated, hannotated⟩ := Stepwise.exists_ok_of_isOk (show
    (workshop.annotate saber).isOk = true by decide +kernel)
  obtain ⟨inherited, hinherited⟩ := Stepwise.exists_ok_of_isOk (show
    (workshop.annotate tool).isOk = true by decide +kernel)
  have hlength : (workshop.catalog.resolveFields workshop.registry
      (workshop.flatten sword).fields).map List.length = .ok 2 := by decide +kernel
  have hentry : (workshop.annotate saber).map (·.exclusions.get? ⟨saber, 0⟩) =
      .ok (some (.options [0])) := by decide +kernel
  have hnone : (workshop.annotate tool).map (·.exclusions.get? ⟨tool, 0⟩) = .ok none := by
    decide +kernel
  rw [hresolved] at hlength
  rw [hannotated] at hentry
  rw [hinherited] at hnone
  obtain ⟨hparent, hancestors⟩ := inherited_fields_come_first workshop
  exact ⟨saber, sword, tool, hsaber, hsword,
    ⟨resolved, hresolved, Except.ok.inj hlength, (hparent saber sword hsaber).2 resolved hresolved⟩,
    annotated, inherited, hannotated, hinherited,
    hancestors saber tool hancestor annotated inherited hannotated hinherited,
    Except.ok.inj hentry, Except.ok.inj hnone⟩

end Generator
end TagSchema
