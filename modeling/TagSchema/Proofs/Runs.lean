import TagSchema.Generation.Run
import TagSchema.Proofs.ExclusionTable
import TagSchema.Proofs.Stepwise

/-!
# Runs

A run goes through an order struct by struct. A struct that was emitted before changes nothing, so
after each step the run has emitted the distinct structs so far, in the order of their first places.

Main results:

- `Generator.emitNext_of_emitted`: one step of a run.
- `Generator.run_of_emitted`: a run over structs that can all be emitted.
- `Generator.run_of_fault`: a run with a struct that cannot be emitted.
- `Generator.exists_emitted_of_run`: a run that succeeds emits every struct of its order.
-/

namespace TagSchema
namespace Generator

variable (g : Generator)

instance : Nonempty EmittedStruct :=
  ⟨⟨[], 0, {}⟩⟩

/-- The outcome of a run that has emitted some structs. -/
def outcome (emitted : g.StructId → EmittedStruct) (ids : List g.StructId) :
    Generated g.catalog.toTables where
  writes := g.preambles ++ ids.flatMap fun id => (emitted id).writes
  report := {
    structs := ids
    exclusions := ExclusionTable.extendAll {} (fun id => (emitted id).exclusions) ids }

variable {g} {emitted : g.StructId → EmittedStruct} {ids order : List g.StructId} {id : g.StructId}

theorem outcome_nil : g.outcome emitted [] = g.start := by
  simp [outcome, start, ExclusionTable.extendAll]

/-! ## Steps -/

/-- A struct that was emitted before changes nothing. -/
theorem emitNext_of_mem (h : id ∈ ids) :
    g.emitNext (g.outcome emitted ids) id = .ok (g.outcome emitted ids) := by
  simp [emitNext, outcome, h, pure, Except.pure]

/-- A struct that was not emitted before is added at the end. -/
theorem emitNext_of_emitted (h : id ∉ ids) (hemitted : g.emitStruct id = .ok (emitted id)) :
    g.emitNext (g.outcome emitted ids) id = .ok (g.outcome emitted (ids ++ [id])) := by
  simp [emitNext, outcome, h, hemitted, bind, Except.bind, pure, Except.pure,
    ExclusionTable.extendAll]

/-- A struct that cannot be emitted stops the run. -/
theorem emitNext_of_fault {fault : SchemaError} (h : id ∉ ids)
    (hfault : g.emitStruct id = .error fault) :
    g.emitNext (g.outcome emitted ids) id = .error fault := by
  simp [emitNext, outcome, h, hfault, bind, Except.bind]

/-! ## Runs -/

/-- A run that has emitted some structs goes on with those that are new to it. -/
theorem foldlM_emitNext (hemitted : ∀ id ∈ order, g.emitStruct id = .ok (emitted id)) :
    order.foldlM g.emitNext (g.outcome emitted ids) =
      .ok (g.outcome emitted (ids ++ (order.filter (!ids.contains ·)).eraseDups)) := by
  induction order generalizing ids with
  | nil => simp [pure, Except.pure]
  | cons id order ih =>
      have hrest := fun later hlater => hemitted later (List.mem_cons_of_mem id hlater)
      rw [List.foldlM_cons]
      by_cases hid : id ∈ ids
      · rw [emitNext_of_mem hid, List.filter_cons_of_neg (by simpa using hid)]
        exact ih hrest
      · have hnew : (order.filter (!ids.contains ·)).filter (fun later => !later == id) =
            order.filter (!(ids ++ [id]).contains ·) := by
          rw [List.filter_filter]
          apply List.filter_congr
          intro later _
          by_cases heq : later = id <;> simp [heq, hid]
        rw [emitNext_of_emitted hid (hemitted id List.mem_cons_self),
          List.filter_cons_of_pos (by simpa using hid), List.eraseDups_cons, hnew]
        exact (ih hrest).trans (by simp)

/-- A run over structs that can all be emitted emits each at its first place. -/
theorem run_of_emitted (hemitted : ∀ id ∈ order, g.emitStruct id = .ok (emitted id)) :
    g.run order = .ok (g.outcome emitted order.eraseDups) := by
  have h := @foldlM_emitNext g emitted [] order hemitted
  rw [outcome_nil] at h
  simpa [run] using h

/-- A run fails with the fault of the first struct that cannot be emitted. -/
theorem run_of_fault {before after : List g.StructId} {fault : SchemaError}
    (hbefore : ∀ other ∈ before, ∃ emitted, g.emitStruct other = .ok emitted)
    (hfault : g.emitStruct id = .error fault) :
    g.run (before ++ id :: after) = .error fault := by
  choose! emitted hemitted using hbefore
  have hnew : id ∉ before.eraseDups := by
    rw [List.mem_eraseDups]
    intro hid
    rw [hemitted id hid] at hfault
    cases hfault
  have hrun := run_of_emitted hemitted
  unfold run at hrun ⊢
  rw [List.foldlM_append, hrun]
  simp only [bind, Except.bind, List.foldlM_cons, emitNext_of_fault hnew hfault]

/-- When a run succeeds, every struct of its order can be emitted. -/
theorem exists_emitted_of_run {generated : Generated g.catalog.toTables}
    (h : g.run order = .ok generated) : ∀ id ∈ order, ∃ emitted, g.emitStruct id = .ok emitted := by
  rcases Stepwise.all_ok_or_first_error g.emitStruct order with
    hall | ⟨before, id, after, fault, rfl, hbefore, hfault⟩
  · exact hall
  · rw [run_of_fault hbefore hfault] at h
    cases h

end Generator
end TagSchema
