import TagSchema.Proofs.AllOrNothing

/-!
# Runs as concatenations

What a struct adds to a text does not depend on the structs before it. A run over an order is the
preamble followed by what a run over each struct alone adds, the distinct structs in the order of
their first places.

Main results:

- `Generator.text_outcome`: the texts of a run, struct by struct.
- `Generator.exists_annotated_of_emitted`: what a struct that was emitted excludes.
- `Generator.run_concatenates`: runs over any order, with repetitions and with faults.
-/

namespace TagSchema

open Storage

/-! ## Writes -/

theorem writtenTo_append (target : Target) (first second : List Write) :
    writtenTo target (first ++ second) = writtenTo target first ++ writtenTo target second := by
  simp only [writtenTo, List.filter_append, List.map_append, String.join_append]

/-- What the writes of some items add to a text, item by item. -/
theorem writtenTo_flatMap {α : Type} (target : Target) (items : List α) (writes : α → List Write) :
    writtenTo target (items.flatMap writes) =
      String.join (items.map fun item => writtenTo target (writes item)) := by
  induction items with
  | nil => rfl
  | cons item items ih =>
      rw [List.flatMap_cons, writtenTo_append, ih, List.map_cons, String.join_cons]

namespace Generator

variable {g : Generator} {order ids : List g.StructId} {id : g.StructId}

/-- Every text starts with its preamble. -/
theorem writtenTo_preambles (g : Generator) (target : Target) :
    writtenTo target g.preambles = g.config.preamble target := by
  have honce : Target.all.filter (· = target) = [target] := by
    have hcount := List.count_eq_one_of_mem Artifacts.targets_nodup (Artifacts.mem_targets target)
    have hfilter := @List.filter_beq _ _ _ Target.all target
    rw [hcount] at hfilter
    rw [← List.replicate_one, ← hfilter]
    exact List.filter_congr fun other _ => (beq_eq_decide other target).symm
  have hpreambles : g.preambles.filter (·.target = target) =
      [⟨target, g.config.preamble target⟩] := by
    rw [preambles, List.filter_map]
    exact congrArg (List.map _) honce
  simp [writtenTo, hpreambles]

/-- A text of a run: the preamble and what each struct wrote to it. -/
theorem text_outcome (emitted : g.StructId → EmittedStruct) (ids : List g.StructId)
    (target : Target) :
    (g.outcome emitted ids).text target = g.config.preamble target ++
      String.join (ids.map fun id => writtenTo target (emitted id).writes) := by
  rw [Generated.text, outcome, writtenTo_append, writtenTo_preambles, writtenTo_flatMap]

/-! ## Exclusions -/

instance : Nonempty Annotated :=
  ⟨⟨0, [], []⟩⟩

theorem id_of_annotate {annotated : Annotated} (h : g.annotate id = .ok annotated) :
    annotated.id = id := by
  simp only [annotate, Tables.annotate, Stepwise.bind_eq_ok_iff] at h
  obtain ⟨_, _, _, _, hannotated⟩ := h
  cases hannotated
  rfl

/-- A struct that was emitted excludes what its fields may not hold. -/
theorem exists_annotated_of_emitted {emitted : EmittedStruct} (h : g.emitStruct id = .ok emitted) :
    ∃ annotated, g.annotate id = .ok annotated ∧ emitted.exclusions = annotated.exclusions := by
  simp only [emitStruct, Stepwise.bind_eq_ok_iff] at h
  obtain ⟨_, _, annotated, hannotated, _, _, hemitted⟩ := h
  cases hemitted
  exact ⟨annotated, hannotated, rfl⟩

/-- A run excludes what its structs exclude, each entry once. -/
theorem exclusions_outcome {emitted : g.StructId → EmittedStruct}
    {annotated : g.StructId → Annotated} (hids : ids.Nodup)
    (hannotated : ∀ id ∈ ids, g.annotate id = .ok (annotated id) ∧
      (emitted id).exclusions = (annotated id).exclusions) :
    (∀ key exclusion, (g.outcome emitted ids).report.exclusions.get? key = some exclusion ↔
      ∃ id ∈ ids, (annotated id).exclusions.get? key = some exclusion) ∧
    (g.outcome emitted ids).report.exclusions.size =
      (ids.map fun id => (annotated id).exclusions.size).foldr (· + ·) 0 := by
  have howned : ∀ id ∈ ids, ExclusionTable.OwnedBy id (emitted id).exclusions := by
    intro id hid
    obtain ⟨hok, hexclusions⟩ := hannotated id hid
    rw [hexclusions, ← id_of_annotate hok]
    exact (annotated id).exclusions_ownedBy
  have hempty : ExclusionTable.LeavesOut {} ids := fun _ _ _ _ => rfl
  constructor
  · intro key exclusion
    rw [outcome, ExclusionTable.get?_extendAll_iff howned hids hempty]
    constructor
    · rintro (hnone | ⟨id, hid, hfound⟩)
      · cases hnone
      · exact ⟨id, hid, (hannotated id hid).2 ▸ hfound⟩
    · rintro ⟨id, hid, hfound⟩
      exact Or.inr ⟨id, hid, (hannotated id hid).2 ▸ hfound⟩
  · have hsizes : (ids.map fun id => (emitted id).exclusions.size) =
        ids.map fun id => (annotated id).exclusions.size :=
      List.map_congr_left fun id hid => congrArg _ (hannotated id hid).2
    rw [outcome, ExclusionTable.size_extendAll howned hids hempty, hsizes]
    exact Nat.zero_add _

/-! ## Runs in memory -/

variable {root : Node}

/-- The texts of a run into empty sinks in memory are the texts of the run. -/
theorem text?_generateInto_inMemory {generated : Generated g.catalog.toTables}
    (h : g.run order = .ok generated) (target : Target) :
    (g.generateInto order .inMemory root).1.1.text? target = some (generated.text target) := by
  have happended := (@generateInto_of_run g order .inMemory root generated h).2
  rw [Artifacts.text?, happended.memory target "" rfl, String.empty_append]
  rfl

/-- A run over one struct fails when the struct cannot be emitted. -/
theorem run_single_eq_error_iff {fault : SchemaError} :
    g.run [id] = .error fault ↔ g.emitStruct id = .error fault := by
  cases hemitted : g.emitStruct id with
  | error other =>
      have hrun := @run_of_fault g id [] [] other (by simp) hemitted
      rw [List.nil_append] at hrun
      simp [hrun]
  | ok emitted =>
      have hrun := @run_of_emitted g (fun _ => emitted) [id] (by simpa using hemitted)
      simp [hrun]

/-- A run over the struct alone, into empty sinks in memory, succeeds. -/
def EmitsAlone (g : Generator) (root : Node) (id : g.StructId) : Prop :=
  ∃ report, (g.generateInto [id] .inMemory root).2 = .ok report

/-- A struct can be emitted alone when its emission succeeds. -/
theorem emitsAlone_iff : g.EmitsAlone root id ↔ ∃ emitted, g.emitStruct id = .ok emitted := by
  unfold EmitsAlone
  cases hemitted : g.emitStruct id with
  | error fault =>
      rw [generateInto_of_fault (run_single_eq_error_iff.2 hemitted)]
      simp
  | ok emitted =>
      have hrun := @run_of_emitted g (fun _ => emitted) [id] (by simpa using hemitted)
      simp [(generateInto_of_run hrun).1]

/-! ## Concatenation -/

variable (g)

/-- A run into empty sinks in memory puts together runs over single structs. When every struct of
the order can be emitted alone, each text is the preamble and, for the distinct structs in the order
of their first places, what a run over the struct alone adds to the preamble; the report lists these
structs and has exactly the entries of what each of them may not hold. Otherwise the run fails with
the fault of the first struct that cannot be emitted alone. -/
theorem run_concatenates (order : List g.StructId) (root : Node) :
    ((∀ id ∈ order, g.EmitsAlone root id) →
      ∃ (chunk : g.StructId → Target → String) (annotated : g.StructId → Annotated)
          (report : Report g.catalog.toTables),
        (∀ id ∈ order, g.annotate id = .ok (annotated id) ∧
          ∀ target, (g.generateInto [id] .inMemory root).1.1.text? target =
            some (g.config.preamble target ++ chunk id target)) ∧
        (g.generateInto order .inMemory root).2 = .ok report ∧
        (∀ target, (g.generateInto order .inMemory root).1.1.text? target =
          some (g.config.preamble target ++
            String.join (order.eraseDups.map fun id => chunk id target))) ∧
        report.structs = order.eraseDups ∧
        (∀ key exclusion, report.exclusions.get? key = some exclusion ↔
          ∃ id ∈ order, (annotated id).exclusions.get? key = some exclusion) ∧
        report.exclusions.size =
          (order.eraseDups.map fun id => (annotated id).exclusions.size).foldr (· + ·) 0) ∧
    ((¬ ∀ id ∈ order, g.EmitsAlone root id) →
      ∃ before id after fault, order = before ++ id :: after ∧
        (∀ other ∈ before, g.EmitsAlone root other) ∧
        (g.generateInto [id] .inMemory root).2 = .error fault ∧
        (g.generateInto order .inMemory root).2 = .error fault) := by
  simp only [emitsAlone_iff]
  constructor
  · intro hall
    choose! emitted hemitted using hall
    have hannotated : ∀ id ∈ order, ∃ annotated, g.annotate id = .ok annotated ∧
        (emitted id).exclusions = annotated.exclusions := fun id hid =>
      exists_annotated_of_emitted (hemitted id hid)
    choose! annotated hannotated using hannotated
    have hrun := run_of_emitted hemitted
    obtain ⟨hentries, hsize⟩ := exclusions_outcome (Stepwise.nodup_eraseDups order)
      fun id hid => hannotated id (List.mem_eraseDups.1 hid)
    refine ⟨fun id target => writtenTo target (emitted id).writes, annotated,
      (g.outcome emitted order.eraseDups).report, ?_, (generateInto_of_run hrun).1, ?_, rfl, ?_,
      hsize⟩
    · intro id hid
      refine ⟨(hannotated id hid).1, fun target => ?_⟩
      have hsingle := @run_of_emitted g emitted [id] (by simpa using hemitted id hid)
      rw [text?_generateInto_inMemory hsingle, text_outcome]
      simp [List.eraseDups_cons]
    · intro target
      rw [text?_generateInto_inMemory hrun, text_outcome]
    · intro key exclusion
      rw [hentries]
      simp only [List.mem_eraseDups]
  · intro hnot
    rcases Stepwise.all_ok_or_first_error g.emitStruct order with
      hall | ⟨before, id, after, fault, rfl, hbefore, hfault⟩
    · exact absurd hall hnot
    · exact ⟨before, id, after, fault, rfl, hbefore,
        generateInto_eq_error_iff.2 (run_single_eq_error_iff.2 hfault),
        generateInto_eq_error_iff.2 (run_of_fault hbefore hfault)⟩

/-- A run with a struct that comes twice and an exclusion that is inherited, and a run that fails at
its last struct. -/
theorem foundry_concatenates :
    ∃ mold ladle cast : foundry.StructId,
      (∃ (chunk : foundry.StructId → Target → String) (report : Report foundry.catalog.toTables),
        (foundry.generateInto [ladle, mold, ladle] .inMemory yard).2 = .ok report ∧
        report.structs = [ladle, mold] ∧ report.exclusions.size = 2 ∧
        ∀ target, (foundry.generateInto [ladle, mold, ladle] .inMemory yard).1.1.text? target =
          some (foundry.config.preamble target ++ (chunk ladle target ++ chunk mold target))) ∧
      ∃ fault, (foundry.generateInto [cast] .inMemory yard).2 = .error fault ∧
        (foundry.generateInto [mold, cast] .inMemory yard).2 = .error fault := by
  let mold : foundry.StructId := ⟨0, by decide⟩
  let ladle : foundry.StructId := ⟨1, by decide⟩
  let cast : foundry.StructId := ⟨2, by decide⟩
  have hmold : foundry.EmitsAlone yard mold :=
    emitsAlone_iff.2 (Stepwise.exists_ok_of_isOk (by decide +kernel))
  have hladle : foundry.EmitsAlone yard ladle :=
    emitsAlone_iff.2 (Stepwise.exists_ok_of_isOk (by decide +kernel))
  have hcast : ¬ foundry.EmitsAlone yard cast := by
    obtain ⟨fault, hfault⟩ := Stepwise.exists_error_of_isOk (show
      (foundry.emitStruct cast).isOk = false by decide +kernel)
    simp [emitsAlone_iff, hfault]
  refine ⟨mold, ladle, cast, ?_, ?_⟩
  · obtain ⟨chunk, annotated, report, hsingle, hreport, htext, hstructs, _, hsize⟩ :=
      (run_concatenates foundry [ladle, mold, ladle] yard).1 (by simp [hmold, hladle])
    have horder : [ladle, mold, ladle].eraseDups = [ladle, mold] := by decide
    have hone : ∀ id ∈ [ladle, mold, ladle], (annotated id).exclusions.size = 1 := by
      intro id hid
      have hsizes : ∀ id ∈ [ladle, mold, ladle],
          (foundry.annotate id).map (·.exclusions.size) = .ok 1 := by decide +kernel
      have hsizes := hsizes id hid
      rw [(hsingle id hid).1] at hsizes
      exact Except.ok.inj hsizes
    rw [horder] at hstructs hsize
    refine ⟨chunk, report, hreport, hstructs, ?_, ?_⟩
    · simpa [hone] using hsize
    · intro target
      rw [htext, horder]
      simp
  · obtain ⟨before, id, after, fault, horder, hbefore, hfault, hrun⟩ :=
      (run_concatenates foundry [mold, cast] yard).2 (by simp [hcast])
    have hid : id ∈ [mold, cast] := by simp [horder]
    have hne : id ≠ mold := by
      rintro rfl
      obtain ⟨report, hreport⟩ := hmold
      rw [hfault] at hreport
      cases hreport
    have heq : id = cast := by simpa [hne] using hid
    rw [heq] at hfault
    exact ⟨fault, hfault, hrun⟩

end Generator
end TagSchema
