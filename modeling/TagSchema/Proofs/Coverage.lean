import TagSchema.Generation.Output
import TagSchema.Proofs.DependencyOrder
import TagSchema.Proofs.Runs

/-!
# Every struct is emitted once

The dependency order of a catalog always exists: counting never takes a count below zero, the
depth-first walk ends by itself, and every struct comes exactly once. So a run over all structs
writes what each struct emits exactly once, in memory as well as into files.

Main results:

- `Catalog.count_dependencyOrder`: every struct comes exactly once in the order.
- `Generator.generate_emitsOnce`: what a run over all structs writes.
- `Generator.writeToDirectory_eq_ok_iff`: what is written into the files of a directory.
-/

namespace TagSchema

open TagSchema.Storage

/-- Every struct comes exactly once in the order. -/
theorem Catalog.count_dependencyOrder (c : Catalog) (s : c.StructId) :
    c.dependencyOrder.count s = 1 := by
  rw [Catalog.dependencyOrder_perm.count_eq]
  exact List.count_eq_one_of_mem Catalog.structIds_nodup (Catalog.mem_structIds s)

/-- Every struct is in the order. -/
theorem Catalog.mem_dependencyOrder (c : Catalog) (s : c.StructId) : s ∈ c.dependencyOrder :=
  Catalog.dependencyOrder_perm.mem_iff.2 (Catalog.mem_structIds s)

namespace Generator

variable (g : Generator)

/-! ## Runs -/

/-- The outcome of a run holds what each struct emits exactly once, in the order that the run
reports. -/
def EmitsOnce (generated : Generated g.catalog.toTables) : Prop :=
  ∃ emitted : g.StructId → EmittedStruct,
    (∀ id, g.emitStruct id = .ok (emitted id)) ∧
    (∀ id, generated.report.structs.count id = 1) ∧
    generated.writes =
      g.preambles ++ generated.report.structs.flatMap fun id => (emitted id).writes

/-- When every struct can be emitted, so can all structs together. -/
theorem generate_of_emitted {emitted : g.StructId → EmittedStruct}
    (hemitted : ∀ id, g.emitStruct id = .ok (emitted id)) :
    ∃ generated, g.generate = .ok generated ∧ g.EmitsOnce generated := by
  have hrun := run_of_emitted fun id (_ : id ∈ g.catalog.dependencyOrder) => hemitted id
  rw [Stepwise.eraseDups_of_nodup Catalog.dependencyOrder_nodup] at hrun
  exact ⟨_, hrun, emitted, hemitted, g.catalog.count_dependencyOrder, rfl⟩

/-- A run over all structs that succeeds emits each of them once. -/
theorem generate_emitsOnce {generated : Generated g.catalog.toTables}
    (h : g.generate = .ok generated) : g.EmitsOnce generated := by
  have hall : ∀ id, ∃ emitted, g.emitStruct id = .ok emitted := fun id =>
    exists_emitted_of_run h id (g.catalog.mem_dependencyOrder id)
  choose emitted hemitted using hall
  obtain ⟨other, hother, honce⟩ := g.generate_of_emitted hemitted
  rw [h] at hother
  cases hother
  exact honce

/-- A run over all structs reports them in dependency order. -/
theorem structs_of_generate {g : Generator} {generated : Generated g.catalog.toTables}
    (h : g.generate = .ok generated) : generated.report.structs = g.catalog.dependencyOrder := by
  obtain ⟨emitted, hemitted, _, _⟩ := g.generate_emitsOnce h
  have hrun := run_of_emitted fun id (_ : id ∈ g.catalog.dependencyOrder) => hemitted id
  rw [Stepwise.eraseDups_of_nodup Catalog.dependencyOrder_nodup] at hrun
  rw [generate, hrun] at h
  cases h
  rfl

/-- Files are written when a run over all structs succeeds and the files can be made. -/
theorem writeToDirectory_eq_ok_iff {root after : Node} {dir : String}
    {report : Report g.catalog.toTables} :
    g.writeToDirectory root dir = (after, .ok report) ↔
      ∃ generated made artifacts, g.generate = .ok generated ∧
        Artifacts.createIn root dir = (made, .ok artifacts) ∧ report = generated.report ∧
        after = ((artifacts.appendAll made generated.text).1.flush
          (artifacts.appendAll made generated.text).2 Target.all).2 := by
  unfold writeToDirectory
  constructor
  · intro h
    split at h
    · cases h
    · rename_i generated hgenerated
      split at h
      · cases h
      · rename_i made artifacts hmade
        cases h
        exact ⟨generated, made, artifacts, hgenerated, hmade, rfl, rfl⟩
  · rintro ⟨generated, made, artifacts, hgenerated, hmade, rfl, rfl⟩
    simp only [hgenerated, hmade]

end Generator
end TagSchema
