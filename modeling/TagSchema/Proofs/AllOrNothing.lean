import TagSchema.Proofs.Coverage
import TagSchema.Proofs.Sinks

/-!
# Output is all or nothing

A fault of the definitions leaves artifacts and files as they were; a run that succeeds is appended
as a whole. The three ways to make a run over all structs succeed together, and when they fail they
report the same fault.

Main results:

- `Generator.generateInto_of_fault`, `Generator.generateInto_of_run`: appending a run to artifacts.
- `Generator.filesHold_of_createIn`: what a run leaves in the files of a directory.
- `Generator.output_all_or_nothing`: all outputs together.
-/

namespace TagSchema
namespace Generator

open Storage
open Node (pathNames KeptAt)
open Artifacts (Appended placeIn)

variable (g : Generator)

/-! ## Artifacts -/

variable {g} {order : List g.StructId} {artifacts : Artifacts} {root : Node}

/-- A run that fails is not appended. -/
theorem generateInto_of_fault {fault : SchemaError} (h : g.run order = .error fault) :
    g.generateInto order artifacts root = ((artifacts, root), .error fault) := by
  simp only [generateInto, h]

/-- A run that succeeds is appended. -/
theorem generateInto_of_run {generated : Generated g.catalog.toTables}
    (h : g.run order = .ok generated) :
    (g.generateInto order artifacts root).2 = .ok generated.report ∧
      Appended artifacts root generated.text (g.generateInto order artifacts root).1.1
        (g.generateInto order artifacts root).1.2 := by
  have hall := artifacts.appended_appendAll root generated.text
  have hflush := Artifacts.appended_flush (artifacts.appendAll root generated.text).1
    (artifacts.appendAll root generated.text).2 [.declarations]
  simp only [generateInto, h, Artifacts.flushDeclarations]
  exact ⟨trivial, by simpa using hall.trans hflush⟩

/-- Appending a run reports the fault of the run. -/
theorem generateInto_eq_error_iff {fault : SchemaError} :
    (g.generateInto order artifacts root).2 = .error fault ↔ g.run order = .error fault := by
  cases hrun : g.run order with
  | error other => simp [generateInto_of_fault hrun]
  | ok generated => simp [(generateInto_of_run hrun).1]

/-- Appending a run gives the report of the run. -/
theorem generateInto_eq_ok_iff {report : Report g.catalog.toTables} :
    (g.generateInto order artifacts root).2 = .ok report ↔
      ∃ generated, g.run order = .ok generated ∧ generated.report = report := by
  cases hrun : g.run order with
  | error other => simp [generateInto_of_fault hrun]
  | ok generated => simp [(generateInto_of_run hrun).1]

/-! ## Files -/

/-- The files of a directory hold texts; other files are as they were and no directory is gone. -/
def FilesHold (root after : Node) (dir : String) (text : Target → String) : Prop :=
  ∃ location, after.LeadsTo (pathNames dir) location ∧
    (∀ target, after.find? (placeIn location target) = some (.file (encode (text target)))) ∧
    ∀ place, (∀ target, place ≠ placeIn location target) → KeptAt root after place

/-- New files hold the texts that were appended to them, once they are flushed. -/
theorem filesHold_of_createIn {made : Node} {dir : String} (text : Target → String)
    (h : Artifacts.createIn root dir = (made, .ok artifacts)) :
    FilesHold root ((artifacts.appendAll made text).1.flush
      (artifacts.appendAll made text).2 Target.all).2 dir text := by
  obtain ⟨location, rfl, hleads, hmade, hkept⟩ := Artifacts.createIn_eq_ok h
  have happended := ((Artifacts.filesIn location).appended_appendAll made text).trans
    (Artifacts.appended_flush _ _ Target.all)
  simp only [String.append_empty] at happended
  have helsewhere := fun place (hplace : ∀ target, place ≠ placeIn location target) =>
    happended.elsewhere place fun target heq => hplace target (Option.some.inj heq).symm
  refine ⟨location, ?_, ?_, ?_⟩
  · apply hleads.of_kept
    intro place hdirectory
    -- what was a directory is none of the new files
    have hplace : ∀ target, place ≠ placeIn location target := by
      rintro target rfl
      rw [hmade] at hdirectory
      cases hdirectory
    rw [helsewhere place hplace, hdirectory]
  · intro target
    rw [← Node.shapeAt?_eq_file_iff]
    apply Artifacts.shapeAt?_of_appended_filesIn hmade happended
    exact fun other => Artifacts.flushed_flush _ _ _ (Or.inl (Artifacts.mem_targets other))
  · intro place hplace
    exact (hkept place hplace).trans (.of_eq (helsewhere place hplace))

/-- Writing a run over all structs into files reports the fault of the run, and nothing changes. -/
theorem writeToDirectory_of_fault {dir : String} {fault : SchemaError}
    (h : g.generate = .error fault) :
    g.writeToDirectory root dir = (root, .error (.schema fault)) := by
  simp only [writeToDirectory, h]

/-- When files can be made, a run over all structs that succeeds is written into them. -/
theorem writeToDirectory_of_run {made : Node} {dir : String}
    {generated : Generated g.catalog.toTables} (h : g.generate = .ok generated)
    (hmade : Artifacts.createIn root dir = (made, .ok artifacts)) :
    g.writeToDirectory root dir = (((artifacts.appendAll made generated.text).1.flush
      (artifacts.appendAll made generated.text).2 Target.all).2, .ok generated.report) :=
  g.writeToDirectory_eq_ok_iff.2 ⟨generated, made, artifacts, h, hmade, rfl, rfl⟩

/-- Only a fault of the run is reported as a fault of the definitions. -/
theorem writeToDirectory_eq_error_iff {dir : String} {fault : SchemaError} :
    (g.writeToDirectory root dir).2 = .error (.schema fault) ↔ g.generate = .error fault := by
  cases hrun : g.generate with
  | error other => simp [writeToDirectory_of_fault hrun]
  | ok generated =>
      rcases hmade : Artifacts.createIn root dir with ⟨made, e | artifacts⟩
      · simp [writeToDirectory, hrun, hmade]
      · simp [writeToDirectory_of_run hrun hmade]

/-! ## All outputs -/

variable (g)

/-- Output is all or nothing. A run that fails leaves the artifacts and the tree as they were, and a
run that succeeds is appended to what every sink holds. When a run over all structs fails, no file
and no directory is made or changed; when it is written, the files hold its texts and every other
file is as it was. The three ways to make a run over all structs succeed together, with the same
report, and fail together, with the same fault. -/
theorem output_all_or_nothing :
    (∀ order artifacts root fault, (g.generateInto order artifacts root).2 = .error fault →
      (g.generateInto order artifacts root).1 = (artifacts, root)) ∧
    (∀ order artifacts root after afterRoot report,
      g.generateInto order artifacts root = ((after, afterRoot), .ok report) →
      ∃ generated, g.run order = .ok generated ∧ report = generated.report ∧
        Appended artifacts root generated.text after afterRoot ∧
        (artifacts.Separate → ∀ target held, (artifacts.sink target).Holds root held →
          (after.sink target).Holds afterRoot (held ++ encode (generated.text target)))) ∧
    (∀ root dir after fault, g.writeToDirectory root dir = (after, .error (.schema fault)) →
      after = root) ∧
    (∀ root dir after report, g.writeToDirectory root dir = (after, .ok report) →
      ∃ generated, g.generate = .ok generated ∧ report = generated.report ∧
        FilesHold root after dir generated.text) ∧
    (∀ artifacts root dir fault,
      ((g.generateInto g.catalog.dependencyOrder artifacts root).2 = .error fault ↔
        g.generate = .error fault) ∧
      ((g.writeToDirectory root dir).2 = .error (.schema fault) ↔ g.generate = .error fault)) ∧
    ∀ artifacts root dir report,
      ((g.generateInto g.catalog.dependencyOrder artifacts root).2 = .ok report ↔
        ∃ generated, g.generate = .ok generated ∧ generated.report = report) ∧
      ((∃ made files, Artifacts.createIn root dir = (made, .ok files)) →
        ((g.writeToDirectory root dir).2 = .ok report ↔
          ∃ generated, g.generate = .ok generated ∧ generated.report = report)) := by
  refine ⟨?_, ?_, ?_, ?_, ?_, ?_⟩
  · intro order artifacts root fault h
    rw [generateInto_of_fault (generateInto_eq_error_iff.1 h)]
  · intro order artifacts root after afterRoot report h
    obtain ⟨generated, hrun, hreport⟩ := generateInto_eq_ok_iff.1 (congrArg Prod.snd h)
    have happended := (@generateInto_of_run g order artifacts root generated hrun).2
    rw [h] at happended
    exact ⟨generated, hrun, hreport.symm, happended,
      fun hseparate target held hheld => happended.holds hseparate hheld⟩
  · intro root dir after fault h
    have hfault := writeToDirectory_eq_error_iff.1 (congrArg Prod.snd h)
    rw [writeToDirectory_of_fault hfault] at h
    exact (congrArg Prod.fst h).symm
  · intro root dir after report h
    obtain ⟨generated, made, artifacts, hgenerated, hmade, hreport, rfl⟩ :=
      g.writeToDirectory_eq_ok_iff.1 h
    exact ⟨generated, hgenerated, hreport, filesHold_of_createIn generated.text hmade⟩
  · intro artifacts root dir fault
    exact ⟨generateInto_eq_error_iff, writeToDirectory_eq_error_iff⟩
  · intro artifacts root dir report
    refine ⟨generateInto_eq_ok_iff, ?_⟩
    rintro ⟨made, files, hmade⟩
    cases hrun : g.generate with
    | error other => simp [writeToDirectory_of_fault hrun]
    | ok generated => simp [writeToDirectory_of_run hrun hmade]

/-- A generator with a struct that cannot be emitted behind one that can: its title is no member. -/
def foundry : Generator where
  catalog := {
    enums := [{ name := "Grade", options := ["low", "high"] }]
    structs := [
      { name := "Mold",
        fields := [
          { memberName := "grade", type := .named "Grade", exclude := [{ option := "low" }] }] },
      { name := "Ladle", inherits := some "Mold" },
      { name := "Cast", title := some "label" }]
    faultless := by decide }

/-- A tree with one file. -/
def yard : Node :=
  .directory [("log", .file [1, 2, 3])]

/-- Sinks in memory but for the declarations, which go to the end of the file. -/
def logged : Artifacts :=
  Artifacts.inMemory.set .declarations (.file { location := ["log"], offset := 3 })

/-- A run that fails at its second struct leaves the file and the tree as they were, a run over the
first struct is appended to the file, and a run without faults is written into new files. -/
theorem foundry_all_or_nothing :
    (∃ mold cast : foundry.StructId,
      (foundry.generateInto [mold, cast] logged yard).1 = (logged, yard) ∧
      ∃ generated after afterRoot report, foundry.run [mold] = .ok generated ∧
        foundry.generateInto [mold] logged yard = ((after, afterRoot), .ok report) ∧
        (after.sink .declarations).Holds afterRoot
          ([1, 2, 3] ++ encode (generated.text .declarations)) ∧
        (after.sink (.concern .compare)).Holds afterRoot
          (encode "" ++ encode (generated.text (.concern .compare)))) ∧
    (foundry.writeToDirectory yard "out").1 = yard ∧
    ∃ (generated : Generated Catalog.armory.toTables) (after : Node),
      ({ catalog := Catalog.armory } : Generator).writeToDirectory yard "out" =
        (after, .ok generated.report) ∧
      FilesHold yard after "out" generated.text := by
  let mold : foundry.StructId := ⟨0, by decide⟩
  let cast : foundry.StructId := ⟨2, by decide⟩
  refine ⟨⟨mold, cast, ?_, ?_⟩, ?_, ?_⟩
  · obtain ⟨fault, hrun⟩ := Stepwise.exists_error_of_isOk (show
      (foundry.run [mold, cast]).isOk = false by decide +kernel)
    exact (output_all_or_nothing foundry).1 _ _ _ fault (generateInto_eq_error_iff.2 hrun)
  · obtain ⟨generated, hrun⟩ := Stepwise.exists_ok_of_isOk (show
      (foundry.run [mold]).isOk = true by decide +kernel)
    have hreport := (@generateInto_of_run foundry [mold] logged yard generated hrun).1
    rcases hnew : foundry.generateInto [mold] logged yard with ⟨⟨after, afterRoot⟩, outcome⟩
    rw [hnew] at hreport
    subst hreport
    have hseparate : logged.Separate := by
      intro target other place htarget hother
      have hdeclarations : ∀ target, (logged.sink target).location? = some place →
          target = .declarations := by
        intro target h
        by_contra hne
        simp [logged, Artifacts.inMemory, Sink.location?, hne] at h
      rw [hdeclarations target htarget, hdeclarations other hother]
    have hlog : (logged.sink .declarations).Holds yard [1, 2, 3] := by
      have hend := @Sink.holds_file yard { location := ["log"], offset := 3 } [1, 2, 3] rfl rfl
      rwa [encode_empty, List.append_nil] at hend
    obtain ⟨other, hother, _, _, hholds⟩ :=
      (output_all_or_nothing foundry).2.1 [mold] logged yard after afterRoot _ hnew
    rw [hrun] at hother
    cases hother
    exact ⟨generated, after, afterRoot, _, hrun, rfl, hholds hseparate .declarations _ hlog,
      hholds hseparate (.concern .compare) _ (Sink.holds_memory yard "")⟩
  · obtain ⟨fault, hfault⟩ := Stepwise.exists_error_of_isOk (show
      foundry.generate.isOk = false by decide +kernel)
    obtain ⟨_, _, hnothing, _, hfaults, _⟩ := output_all_or_nothing foundry
    exact hnothing yard "out" _ fault
      (Prod.ext rfl ((hfaults logged yard "out" fault).2.2 hfault))
  · obtain ⟨generated, hgenerated⟩ := Stepwise.exists_ok_of_isOk (show
      ({ catalog := Catalog.armory } : Generator).generate.isOk = true by decide +kernel)
    obtain ⟨files, hfiles⟩ := Stepwise.exists_ok_of_isOk (show
      (Artifacts.createIn yard "out").2.isOk = true by decide +kernel)
    obtain ⟨_, _, _, hfilesHold, _, hreports⟩ := output_all_or_nothing { catalog := Catalog.armory }
    have hwritten := ((hreports logged yard "out" generated.report).2
      ⟨_, files, Prod.ext rfl hfiles⟩).2 ⟨generated, hgenerated, rfl⟩
    obtain ⟨other, hother, _, hholds⟩ := hfilesHold yard "out" _ _ (Prod.ext rfl hwritten)
    rw [hgenerated] at hother
    cases hother
    exact ⟨generated, _, Prod.ext rfl hwritten, hholds⟩

end Generator
end TagSchema
