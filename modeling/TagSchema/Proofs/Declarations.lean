import TagSchema.Proofs.Inheritance

/-!
# Every struct is declared once

Of the standard passes only the one for values adds to the declarations, and after all passes the
trait of the hooks is added. So what a struct that was emitted adds to the declarations is its
declaration and the trait of its hooks, whatever else was written for it. A run over all structs
emits each of them once, and so each declaration stands once among the declarations.

Main results:

- `Emission.Pass.declarations_of_emit`: what a standard pass adds to the declarations.
- `Generator.exists_subject_of_emitted`: what a struct adds to the declarations.
- `Generator.declaresOnce_of_emitsOnce`: what a run declares that emits every struct once.
- `Generator.every_struct_emitted_once`: the order and the runs as a whole.
-/

namespace TagSchema

open Emission
open TagSchema.Order
open TagSchema.Storage

/-- Only the pass for values adds to the declarations: the declaration of the struct. -/
theorem Emission.Pass.declarations_of_emit {s : Subject} {artifact : Artifact} {emitted : Emitted}
    (h : Pass.standardEmit s artifact = .ok emitted) :
    emitted.declarations = if artifact = .structValue then Value.declaration s else "" := by
  cases artifact with
  | structValue =>
      rw [Value.declarations_of_standardEmit h, Value.declaration_eq_frame, if_pos rfl]
  | checkBrokenEnums =>
      obtain ⟨code, _, hemitted⟩ := Stepwise.bind_eq_ok_iff.1 h
      cases hemitted
      rfl
  | checkInvalidIndices =>
      obtain ⟨code, _, hemitted⟩ := Stepwise.bind_eq_ok_iff.1 h
      cases hemitted
      rfl
  | _ =>
      cases h
      rfl

namespace Generator

variable {g : Generator} {id : g.StructId} {s : Subject}

/-- A struct as the passes look at it. -/
def IsSubject (g : Generator) (id : g.StructId) (s : Subject) : Prop :=
  ∃ ident annotated, requireIdentifier (g.catalog.struct id).name = .ok ident ∧
    g.annotate id = .ok annotated ∧ s = g.subject id ident annotated

/-- What a standard pass adds to the declarations. -/
theorem writtenTo_of_passWrites {artifact : Artifact} {writes : List Write}
    (h : passWrites s (Pass.standard artifact) = .ok writes) :
    writtenTo .declarations writes =
      if artifact = .structValue then Value.declaration s else "" := by
  obtain ⟨emitted, hemitted, hwrites⟩ := Stepwise.bind_eq_ok_iff.1 h
  cases hwrites
  rw [← Pass.declarations_of_emit hemitted]
  simp [writtenTo]

/-- What a struct adds to the declarations. -/
theorem exists_subject_of_emitted (hpasses : g.passes = Pass.standardPasses)
    {emitted : EmittedStruct} (h : g.emitStruct id = .ok emitted) :
    ∃ s, g.IsSubject id s ∧
      writtenTo .declarations emitted.writes = Value.declaration s ++ Value.hooksDeclaration s := by
  simp only [emitStruct, hpasses, Pass.standardPasses, List.mapM_map, Stepwise.bind_eq_ok_iff] at h
  obtain ⟨ident, hident, annotated, hannotated, writes, hwrites, hemitted⟩ := h
  cases hemitted
  refine ⟨g.subject id ident annotated, ⟨ident, annotated, hident, hannotated, rfl⟩, ?_⟩
  have hpass := Stepwise.map_eq_of_mapM hwrites fun _ _ => writtenTo_of_passWrites
  have hdeclared : writtenTo .declarations writes.flatten =
      Value.declaration (g.subject id ident annotated) := by
    have hflatten := writtenTo_flatMap .declarations writes fun each => each
    rw [List.flatMap_id'] at hflatten
    rw [hflatten, hpass]
    simp [Artifact.all]
  rw [writtenTo_append, hdeclared]
  simp [writtenTo]

/-! ## Runs -/

variable (g)

/-- The declarations of a run hold the declaration of each struct, with the trait of its hooks,
exactly once and in the order that the run reports. -/
def DeclaresOnce (generated : Generated g.catalog.toTables) : Prop :=
  ∃ subjectOf : g.StructId → Subject, (∀ id, g.IsSubject id (subjectOf id)) ∧
    generated.text .declarations = g.config.preamble .declarations ++
      String.join (generated.report.structs.map fun id =>
        Value.declaration (subjectOf id) ++ Value.hooksDeclaration (subjectOf id))

/-- What each struct emits with the standard passes has its declaration once. -/
theorem declaresOnce_of_emitsOnce {generated : Generated g.catalog.toTables}
    (hpasses : g.passes = Pass.standardPasses) (h : g.EmitsOnce generated) :
    g.DeclaresOnce generated := by
  obtain ⟨emitted, hemitted, _, hwrites⟩ := h
  choose subjectOf hsubject hwritten using fun id => exists_subject_of_emitted hpasses (hemitted id)
  refine ⟨subjectOf, hsubject, ?_⟩
  rw [Generated.text, hwrites, writtenTo_append, writtenTo_preambles, writtenTo_flatMap]
  simp only [hwritten]

/-- The order of all structs exists and runs over it emit every struct exactly once. Counting open
dependencies takes no count below zero; the depth-first walk through the rest does not depend on how
deep it may go; every struct comes exactly once in the order. When every struct can be emitted, so
can all together; a run over all structs holds what each struct emits exactly once, and with the
standard passes each declaration stands once in it; and what is written into the files of a
directory is such a run. -/
theorem every_struct_emitted_once :
    (∃ placed, placeCounting? g.catalog.dependencies = some placed ∧
      placed <+: g.catalog.dependencyOrder) ∧
    (∀ rest depth, rest.length < depth →
      (rest.foldl (visit g.catalog.dependencies depth) ⟨rest, []⟩).left.reverse =
        postOrder g.catalog.dependencies rest) ∧
    (∀ s, g.catalog.dependencyOrder.count s = 1) ∧
    ((∀ id, ∃ emitted, g.emitStruct id = .ok emitted) → ∃ generated, g.generate = .ok generated) ∧
    (∀ generated, g.generate = .ok generated → g.EmitsOnce generated ∧
      (g.passes = Pass.standardPasses → g.DeclaresOnce generated)) ∧
    ∀ root dir after report, g.writeToDirectory root dir = (after, .ok report) ↔
      ∃ generated made artifacts, g.generate = .ok generated ∧ g.EmitsOnce generated ∧
        Artifacts.createIn root dir = (made, .ok artifacts) ∧ report = generated.report ∧
        after = ((artifacts.appendAll made generated.text).1.flush
          (artifacts.appendAll made generated.text).2 Target.all).2 := by
  refine ⟨⟨_, g.catalog.placeCounting?_dependencies, ?_⟩, fun rest depth => postOrder_eq_of_lt,
    g.catalog.count_dependencyOrder, ?_, fun generated hgenerated => ?_, ?_⟩
  · rw [Catalog.dependencyOrder_eq]
    exact List.prefix_append _ _
  · intro hall
    choose emitted hemitted using hall
    obtain ⟨generated, hgenerated, _⟩ := g.generate_of_emitted hemitted
    exact ⟨generated, hgenerated⟩
  · have honce := g.generate_emitsOnce hgenerated
    exact ⟨honce, fun hpasses => g.declaresOnce_of_emitsOnce hpasses honce⟩
  · intro root dir after report
    rw [writeToDirectory_eq_ok_iff]
    constructor
    · rintro ⟨generated, made, artifacts, hgenerated, hrest⟩
      exact ⟨generated, made, artifacts, hgenerated, g.generate_emitsOnce hgenerated, hrest⟩
    · rintro ⟨generated, made, artifacts, hgenerated, _, hrest⟩
      exact ⟨generated, made, artifacts, hgenerated, hrest⟩

/-- A run over structs with a cycle among them succeeds and emits each struct once. -/
theorem armory_emitted_once :
    ∃ generated, ({ catalog := Catalog.armory } : Generator).generate = .ok generated ∧
      ({ catalog := Catalog.armory } : Generator).EmitsOnce generated ∧
      ({ catalog := Catalog.armory } : Generator).DeclaresOnce generated := by
  obtain ⟨_, _, _, hgenerate, honce, _⟩ :=
    every_struct_emitted_once { catalog := Catalog.armory }
  have hok : ∀ id, (({ catalog := Catalog.armory } : Generator).emitStruct id).isOk = true := by
    decide +kernel
  obtain ⟨generated, hgenerated⟩ := hgenerate fun id => Stepwise.exists_ok_of_isOk (hok id)
  obtain ⟨hemits, hdeclares⟩ := honce generated hgenerated
  exact ⟨generated, hgenerated, hemits, hdeclares rfl⟩

end Generator
end TagSchema
