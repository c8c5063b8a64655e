import TagSchema.CommandLine.Session
import TagSchema.Proofs.AnnotatedFields
import TagSchema.Proofs.Concatenation
import TagSchema.Proofs.Locality
import TagSchema.Proofs.Lockstep

/-!
# What settings change

Settings with the same placeholders are compared on one catalog. Runs with them are in lockstep:
they fail with the same fault or succeed with the same report. The header and the path of the
runtime only show in preambles, and revealing hidden fields only shows in two concerns of structs
that have hidden fields.

Main results:

- `Emission.standardEmit_reveal`: what a standard pass emits when hidden fields are revealed or not.
- `Generator.emitStruct_lockstep`, `Generator.emitNext_lockstep`: one struct, and one step of a run.
- `Generator.generate_lockstep`: runs over all structs.
- `Generator.settings_do_not_interfere`: runs and commands.
-/

namespace TagSchema

open Emission

/-! ## Passes -/

/-- The text shows which fields are visible. -/
def Target.showsVisibility : Target → Bool
  | .concern .structValue => true
  | .concern .saveHekData => true
  | _ => false

namespace Emission

variable {s : Subject} {revealed : Bool}

/-- Revealing hidden fields or not makes no difference to a text. -/
def Subject.Unaffected (s : Subject) (revealed : Bool) (target : Target) : Prop :=
  s.revealHidden = revealed ∨ target.showsVisibility = false ∨
    ∀ field ∈ s.fields, field.definition.hidden = false

/-- Where visibility shows and nothing is affected, the same fields are visible. -/
theorem filter_isVisible_of_unaffected {target : Target} (h : s.Unaffected revealed target)
    (htarget : target.showsVisibility = true) :
    s.fields.filter s.isVisible =
      s.fields.filter { s with revealHidden := revealed }.isVisible := by
  rcases h with rfl | hnot | hnone
  · rfl
  · rw [htarget] at hnot
    cases hnot
  · apply List.filter_congr
    intro field hfield
    simp [Subject.isVisible, hnone field hfield]

/-- A standard pass fails with the same fault or emits the same declarations, whether hidden fields
are revealed or not; two passes emit code that shows the difference. -/
theorem standardEmit_reveal (s : Subject) (revealed : Bool) (artifact : Artifact) :
    Lockstep (fun one two => one.declarations = two.declarations ∧
        (s.Unaffected revealed (.concern artifact) → one.code = two.code))
      (Pass.standardEmit s artifact)
      (Pass.standardEmit { s with revealHidden := revealed } artifact) := by
  cases artifact with
  | structValue =>
      have htitle : Value.titleFault? { s with revealHidden := revealed } = Value.titleFault? s :=
        rfl
      simp only [Pass.standardEmit, htitle]
      cases Value.titleFault? s with
      | some fault => exact .failed fault
      | none =>
          refine .done ⟨rfl, fun h => ?_⟩
          have hvisible := filter_isVisible_of_unaffected h rfl
          simp only [Value.view, Value.entries, hvisible]
  | saveHekData =>
      refine .done ⟨rfl, fun h => ?_⟩
      have hvisible := filter_isVisible_of_unaffected h rfl
      simp only [Authoring.write, Authoring.baseWriteBody, Authoring.trailingWriteBody,
        Authoring.writtenFields, hvisible]
      rfl
  | _ => exact Lockstep.refl _ fun _ => ⟨rfl, fun _ => rfl⟩

end Emission

/-! ## Writes -/

/-- Writes agree on every text that meets a condition. -/
def WritesAgree (unaffected : Target → Prop) (one two : List Write) : Prop :=
  ∀ target, unaffected target → writtenTo target one = writtenTo target two

theorem WritesAgree.append {unaffected : Target → Prop} {one two more others : List Write}
    (h : WritesAgree unaffected one two) (hmore : WritesAgree unaffected more others) :
    WritesAgree unaffected (one ++ more) (two ++ others) := by
  intro target htarget
  rw [writtenTo_append, writtenTo_append, h target htarget, hmore target htarget]

theorem WritesAgree.flatten {unaffected : Target → Prop} {ones twos : List (List Write)}
    (h : List.Forall₂ (WritesAgree unaffected) ones twos) :
    WritesAgree unaffected ones.flatten twos.flatten := by
  induction h with
  | nil => exact fun _ _ => rfl
  | cons hfirst _ ih =>
      rw [List.flatten_cons, List.flatten_cons]
      exact hfirst.append ih

namespace Generator

/-- The standard pass of a concern writes the same to every text that is not affected. -/
theorem passWrites_reveal (s : Subject) (revealed : Bool) (artifact : Artifact) :
    Lockstep (WritesAgree (s.Unaffected revealed)) (passWrites s (.standard artifact))
      (passWrites { s with revealHidden := revealed } (.standard artifact)) := by
  apply (standardEmit_reveal s revealed artifact).bind
  rintro one two ⟨hdeclarations, hcode⟩
  refine .done fun target htarget => ?_
  by_cases hconcern : Target.concern artifact = target
  · subst hconcern
    simp only [Pass.standard, hdeclarations, hcode htarget]
  · simp [writtenTo, List.filter_cons, Pass.standard, hconcern, hdeclarations]

/-! ## Structs -/

section Runs

variable {c : Catalog} {r : Registry} {artifacts : List Artifact} {first second : Config}

/-- A struct exposes a hidden field. -/
def ExposesHidden (c : Catalog) (placeholders : List String) (id : c.StructId) : Prop :=
  ∃ flat ∈ (c.flatten placeholders id).fields, flat.field.hidden = true

/-- Two settings that differ in what they reveal make no difference to a text of some structs: they
reveal the same, or the text does not show visibility, or there is nothing hidden. -/
def Unaffected (first second : Config) (ids : List c.StructId) (target : Target) : Prop :=
  first.extractHidden = second.extractHidden ∨ target.showsVisibility = false ∨
    ∀ id ∈ ids, ¬ ExposesHidden c first.placeholders id

/-- What two lists of structs leave unaffected together, each of them does. -/
theorem Unaffected.of_append {ids more : List c.StructId} {target : Target}
    (h : Unaffected first second (ids ++ more) target) :
    Unaffected first second ids target ∧ Unaffected first second more target := by
  rcases h with hsame | hnot | hnone
  · exact ⟨.inl hsame, .inl hsame⟩
  · exact ⟨.inr (.inl hnot), .inr (.inl hnot)⟩
  · exact ⟨.inr (.inr fun id hid => hnone id (List.mem_append_left more hid)),
      .inr (.inr fun id hid => hnone id (List.mem_append_right ids hid))⟩

/-- The fields of a struct that exposes nothing hidden are not hidden. -/
theorem subject_unaffected {id : c.StructId} {ident : String} {annotated : Annotated}
    (hannotated : (standard first artifacts c r).annotate id = .ok annotated) {target : Target}
    (h : Unaffected first second [id] target) :
    ((standard first artifacts c r).subject id ident annotated).Unaffected second.extractHidden
      target := by
  rcases h with hsame | hnot | hnone
  · exact .inl hsame
  · exact .inr (.inl hnot)
  · refine .inr (.inr fun field hfield => ?_)
    obtain ⟨flat, hflat, hfield⟩ := (Tables.mem_annotated_iff hannotated).1 hfield
    rw [hfield.definition, ← Bool.not_eq_true]
    intro hhidden
    exact hnone id List.mem_cons_self ⟨flat, hflat, hhidden⟩

/-- A struct is emitted with both settings, with the same exclusions and the same writes to every
text that is not affected, or it fails with the same fault. -/
theorem emitStruct_lockstep (h : first.placeholders = second.placeholders) (id : c.StructId) :
    Lockstep (fun one two => one.exclusions = two.exclusions ∧
        WritesAgree (Unaffected first second [id]) one.writes two.writes)
      ((standard first artifacts c r).emitStruct id)
      ((standard second artifacts c r).emitStruct id) := by
  have hannotate : (standard second artifacts c r).annotate id =
      (standard first artifacts c r).annotate id := by
    simp only [annotate, standard, h]
  unfold emitStruct
  rw [hannotate]
  refine (Lockstep.refl (R := Eq) _ fun _ => rfl).bind ?_
  rintro ident _ rfl
  cases hannotated : (standard first artifacts c r).annotate id with
  | error fault => exact .failed fault
  | ok annotated =>
      -- with the other settings the passes see the same struct but for what is revealed
      let s := (standard first artifacts c r).subject id ident annotated
      have hpasses : ∀ pass ∈ artifacts.map Pass.standard,
          Lockstep (WritesAgree (s.Unaffected second.extractHidden)) (passWrites s pass)
            (passWrites { s with revealHidden := second.extractHidden } pass) := by
        intro pass hpass
        obtain ⟨artifact, _, rfl⟩ := List.mem_map.1 hpass
        exact passWrites_reveal s second.extractHidden artifact
      refine (Lockstep.mapM hpasses).bind ?_
      intro ones twos hwrites
      refine .done ⟨rfl, ?_⟩
      intro target htarget
      exact (WritesAgree.flatten hwrites).append (fun _ _ => rfl) target
        (subject_unaffected hannotated htarget)

/-! ## Runs -/

/-- Two runs with different settings are alike: they have the same report, and every text is the
preamble of its settings followed by a body, which is the same unless it is affected. -/
structure Alike (first second : Config) (one two : Generated c.toTables) : Prop where
  report : one.report = two.report
  texts : ∀ target, ∃ body₁ body₂, one.text target = first.preamble target ++ body₁ ∧
    two.text target = second.preamble target ++ body₂ ∧
    (Unaffected first second one.report.structs target → body₁ = body₂)

theorem start_alike :
    Alike first second (standard first artifacts c r).start
      (standard second artifacts c r).start where
  report := rfl
  texts := by
    intro target
    have htext : ∀ config, (standard config artifacts c r).start.text target =
        config.preamble target ++ "" := by
      intro config
      rw [String.append_empty]
      exact writtenTo_preambles _ target
    exact ⟨"", "", htext first, htext second, fun _ => rfl⟩

/-- A run after one more struct was emitted. -/
def added {t : Tables} (written : Generated t) (id : t.StructId) (emitted : EmittedStruct) :
    Generated t where
  writes := written.writes ++ emitted.writes
  report := {
    structs := written.report.structs ++ [id]
    exclusions := written.report.exclusions.extend emitted.exclusions }

/-- Runs stay alike when a struct is added that both emit alike. -/
theorem added_alike {one two : Generated c.toTables} (halike : Alike first second one two)
    {id : c.StructId} {emitted other : EmittedStruct}
    (hexclusions : emitted.exclusions = other.exclusions)
    (hwrites : WritesAgree (Unaffected first second [id]) emitted.writes other.writes) :
    Alike first second (added one id emitted) (added two id other) where
  report := by simp only [added, halike.report, hexclusions]
  texts := by
    intro target
    obtain ⟨body₁, body₂, htext₁, htext₂, hbody⟩ := halike.texts target
    refine ⟨body₁ ++ writtenTo target emitted.writes, body₂ ++ writtenTo target other.writes,
      ?_, ?_, ?_⟩
    · rw [← String.append_assoc, ← htext₁]
      exact writtenTo_append target one.writes emitted.writes
    · rw [← String.append_assoc, ← htext₂]
      exact writtenTo_append target two.writes other.writes
    · intro hunaffected
      obtain ⟨hbefore, hnow⟩ := hunaffected.of_append
      rw [hbody hbefore, hwrites target hnow]

/-- A step of a run keeps the runs alike. -/
theorem emitNext_lockstep (h : first.placeholders = second.placeholders)
    {one two : Generated c.toTables} (halike : Alike first second one two) (id : c.StructId) :
    Lockstep (Alike first second) ((standard first artifacts c r).emitNext one id)
      ((standard second artifacts c r).emitNext two id) := by
  have hsame : one.report.structs.contains id = two.report.structs.contains id := by
    rw [halike.report]
  -- the types of the runs mention the generators; the conditions are those of the common catalog
  change Lockstep (Alike first second)
    (if one.report.structs.contains id then .ok one else
      (standard first artifacts c r).emitStruct id >>= fun emitted => .ok (added one id emitted))
    (if two.report.structs.contains id then .ok two else
      (standard second artifacts c r).emitStruct id >>= fun emitted => .ok (added two id emitted))
  by_cases hid : two.report.structs.contains id = true
  · rw [if_pos (hsame.trans hid), if_pos hid]
    exact .done halike
  · rw [if_neg (hsame ▸ hid), if_neg hid]
    apply (emitStruct_lockstep h id).bind
    rintro emitted other ⟨hexclusions, hwrites⟩
    exact .done (added_alike halike hexclusions hwrites)

/-- Runs over all structs are in lockstep. -/
theorem generate_lockstep (h : first.placeholders = second.placeholders) :
    Lockstep (Alike first second) (standard first artifacts c r).generate
      (standard second artifacts c r).generate :=
  Lockstep.foldlM (fun _ _ halike id _ => emitNext_lockstep h halike id) start_alike

end Runs

end Generator

/-! ## Commands -/

namespace CommandLine

open Storage

/-- The settings that a command asks for. -/
def Common.config (common : Common) : Config :=
  common.placeholders.foldl Config.addPlaceholder
    { runtimePath := common.runtimePath.getD ({} : Config).runtimePath
      extractHidden := common.extractHidden }

/-- The placeholders of a command depend on nothing else that it asks for. -/
theorem placeholders_foldl_addPlaceholder {first second : Config}
    (h : first.placeholders = second.placeholders) (names : List String) :
    (names.foldl Config.addPlaceholder first).placeholders =
      (names.foldl Config.addPlaceholder second).placeholders := by
  induction names generalizing first second with
  | nil => exact h
  | cons name names ih =>
      rw [List.foldl_cons, List.foldl_cons]
      apply ih
      simp only [Config.addPlaceholder, h]

/-- Neither the runtime path nor hidden fields change what is left out. -/
theorem Common.placeholders_config (common : Common) (runtimePath : Option String)
    (extractHidden : Bool) :
    common.config.placeholders =
      { common with
        runtimePath := runtimePath
        extractHidden := extractHidden }.config.placeholders := by
  apply placeholders_foldl_addPlaceholder
  rfl

/-- Definitions that load give a generator with all passes. -/
theorem generatorFor_of_loaded {root : Node} {common : Common} {c : Catalog}
    (h : (Loading.fromPath root common.definitions).outcome = .ok c) :
    generatorFor root common = .ok (Generator.standard common.config Artifact.all c .engine) := by
  simp only [generatorFor, h]
  rfl

/-- Definitions that do not load give the failure, with the path that was asked for. -/
theorem generatorFor_of_failure {root : Node} {common : Common} {failure : Failure}
    (h : (Loading.fromPath root common.definitions).outcome = .error failure) :
    generatorFor root common =
      .error ⟨some ("failed to load definitions from " ++ common.definitions), failure⟩ := by
  simp only [generatorFor, h]

/-- A command to generate code gets past generation: it succeeds, or the files cannot be made. -/
def PassesGeneration (output : String) : Except Complaint String → Prop
  | .ok _ => True
  | .error complaint =>
    ∃ error, complaint = ⟨some ("failed to generate code into " ++ output), .file error⟩

/-- The messages tell a failure to load from a failure to generate. -/
theorem load_step_ne_generate_step (definitions output : String) :
    "failed to load definitions from " ++ definitions ≠
      "failed to generate code into " ++ output := by
  intro h
  -- the texts differ in their eleventh character
  have hchars := congrArg String.toList h
  simp [String.toList_append] at hchars

variable {sources target : Node} {common : Common} {c : Catalog} {output : String}
  {header : Option String}

/-- With definitions that can be loaded, a check succeeds exactly when a run does. -/
theorem exitCode_check_iff (h : (Loading.fromPath sources common.definitions).outcome = .ok c) :
    (commandOutcome sources target (.check common)).exitCode = 0 ↔
      ∃ generated, (Generator.standard common.config Artifact.all c .engine).generate =
        .ok generated := by
  simp only [commandOutcome, carryOut, generatorFor_of_loaded h]
  cases (Generator.standard common.config Artifact.all c .engine).generate <;> simp

/-- What a command to generate code says of a run that was written into files. -/
def reported {α : Type} (output : String) : Except Failure α → Except Complaint String
  | .ok _ => .ok ""
  | .error failure => .error ⟨some ("failed to generate code into " ++ output), failure⟩

/-- What the command does is to write into a directory, and to report it. -/
theorem carryOut_generate {g : Generator} (h : generatorFor sources common = .ok g) :
    (carryOut sources target (.generate common output header)).2 = reported output
      (({ g with config := { g.config with header := header } } : Generator).writeToDirectory target
        output).2 := by
  simp only [carryOut, h]
  generalize ({ g with config := { g.config with header := header } } : Generator).writeToDirectory
    target output = written
  rcases written with ⟨written, failure | report⟩
  · rfl
  · rfl

/-- With definitions that can be loaded, code gets past generation exactly when a run succeeds. -/
theorem passesGeneration_generate_iff
    (h : (Loading.fromPath sources common.definitions).outcome = .ok c) :
    PassesGeneration output (carryOut sources target (.generate common output header)).2 ↔
      ∃ generated, (Generator.standard { common.config with header := header } Artifact.all c
        .engine).generate = .ok generated := by
  let g := Generator.standard { common.config with header := header } Artifact.all c .engine
  rw [carryOut_generate (generatorFor_of_loaded h)]
  change PassesGeneration output (reported output (g.writeToDirectory target output).2) ↔
    ∃ generated, g.generate = .ok generated
  cases hrun : g.generate with
  | error fault => simp [Generator.writeToDirectory_of_fault hrun, reported, PassesGeneration]
  | ok generated =>
      rcases hmade : Artifacts.createIn target output with ⟨made, error | artifacts⟩
      · simp [Generator.writeToDirectory, hrun, hmade, reported, PassesGeneration]
      · simp [Generator.writeToDirectory_of_run hrun hmade, reported, PassesGeneration]

/-- A check succeeds exactly when code with any header, for any path of the runtime and with hidden
fields revealed or not, gets past generation. -/
theorem exitCode_check_iff_passesGeneration (sources target : Node) (common : Common)
    (output : String) (header runtimePath : Option String) (extractHidden : Bool) :
    (commandOutcome sources target (.check common)).exitCode = 0 ↔
      PassesGeneration output (carryOut sources target
        (.generate { common with runtimePath := runtimePath, extractHidden := extractHidden }
          output header)).2 := by
  cases hloaded : (Loading.fromPath sources common.definitions).outcome with
  | error failure =>
      have hother := @generatorFor_of_failure sources
        { common with runtimePath := runtimePath, extractHidden := extractHidden } failure hloaded
      simp [commandOutcome, carryOut, generatorFor_of_failure hloaded, hother, PassesGeneration,
        load_step_ne_generate_step]
  | ok c =>
      refine Iff.trans ?_ (Iff.symm (passesGeneration_generate_iff hloaded))
      rw [exitCode_check_iff hloaded]
      have hplaceholders := common.placeholders_config runtimePath extractHidden
      exact Lockstep.exists_ok_iff (Generator.generate_lockstep hplaceholders)

end CommandLine

/-! ## Noninterference -/

namespace Generator

/-- Without a difference in header and path, preambles are the same. -/
theorem preamble_congr {first second : Config} (hheader : first.header = second.header)
    (hpath : first.runtimePath = second.runtimePath) (target : Target) :
    first.preamble target = second.preamble target := by
  cases target with
  | declarations =>
      simp only [Config.preamble, Config.headerText, Config.headerLines, Config.opening, hheader,
        hpath]
  | concern artifact =>
      simp only [Config.preamble, Config.headerText, Config.headerLines, Config.opening, hheader]

/-- Settings do not interfere with generation. With the standard passes of any concerns, runs over a
catalog with two settings that have the same placeholders fail with the same fault, or both succeed.
Then their reports are equal, and every text is the preamble of its settings followed by a body; the
bodies are equal unless the settings differ in what they reveal, the text is that of one of two
concerns, and some struct that was emitted exposes a hidden field. When the settings agree on the
header and the path, the same holds of the texts as a whole. So a check succeeds exactly when code
with any header gets past generation. -/
theorem settings_do_not_interfere :
    (∀ (c : Catalog) (r : Registry) (artifacts : List Artifact) (first second : Config),
      first.placeholders = second.placeholders →
      Lockstep
        (fun one two => Alike first second one two ∧
          (first.header = second.header → first.runtimePath = second.runtimePath →
            ∀ target, Unaffected first second one.report.structs target →
              one.text target = two.text target))
        (standard first artifacts c r).generate (standard second artifacts c r).generate) ∧
    ∀ (sources target : Storage.Node) (common : CommandLine.Common) (output : String)
        (header runtimePath : Option String) (extractHidden : Bool),
      (CommandLine.commandOutcome sources target (.check common)).exitCode = 0 ↔
        CommandLine.PassesGeneration output (CommandLine.carryOut sources target
          (.generate { common with runtimePath := runtimePath, extractHidden := extractHidden }
            output header)).2 := by
  refine ⟨?_, CommandLine.exitCode_check_iff_passesGeneration⟩
  intro c r artifacts first second h
  apply (generate_lockstep h).mono
  intro one two halike
  refine ⟨halike, fun hheader hpath target hunaffected => ?_⟩
  obtain ⟨body₁, body₂, htext₁, htext₂, hbody⟩ := halike.texts target
  rw [htext₁, htext₂, hbody hunaffected, preamble_congr hheader hpath]

/-- A catalog with a struct that hides a field, and one that inherits from it. -/
def vault : Catalog where
  structs := [
    { name := "Safe", inherits := some "Box" },
    { name := "Box",
      fields := [
        { memberName := "tilt", type := .named "Angle" },
        { memberName := "code", type := .named "Index", hidden := true }] }]
  faultless := rfl

/-- Settings that differ in everything but the placeholders, where the inherited field is hidden:
the bodies of the code that reads the structs are the same. -/
theorem vault_settings_do_not_interfere :
    let other : Config := { header := some "Vault", runtimePath := "vault", extractHidden := true }
    ({} : Config).placeholders = other.placeholders ∧
      (∃ id, ExposesHidden vault other.placeholders id) ∧
      ∃ one two, (standard {} Artifact.all vault .engine).generate = .ok one ∧
        (standard other Artifact.all vault .engine).generate = .ok two ∧
        one.report = two.report ∧
        ∃ body, one.text (.concern .readHekData) =
            ({} : Config).preamble (.concern .readHekData) ++ body ∧
          two.text (.concern .readHekData) = other.preamble (.concern .readHekData) ++ body := by
  intro other
  obtain ⟨one, hone⟩ := Stepwise.exists_ok_of_isOk (show
    (standard {} Artifact.all vault .engine).generate.isOk = true by decide +kernel)
  obtain ⟨two, htwo, halike, _⟩ :=
    (settings_do_not_interfere.1 vault .engine Artifact.all {} other rfl).exists_related hone
  obtain ⟨body₁, body₂, htext₁, htext₂, hbody⟩ := halike.texts (.concern .readHekData)
  obtain rfl : body₁ = body₂ := hbody (.inr (.inl rfl))
  have hhidden : ExposesHidden vault other.placeholders ⟨0, by decide⟩ :=
    ⟨⟨"Box", { memberName := "code", type := .named "Index", hidden := true }⟩, by decide +kernel,
      rfl⟩
  exact ⟨rfl, ⟨_, hhidden⟩, one, two, hone, htwo, halike.report, body₁, htext₁, htext₂⟩

end Generator
end TagSchema
