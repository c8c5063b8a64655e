import TagSchema.Proofs.DomainChecks
import TagSchema.Proofs.Wrappers

/-!
# Checks of indices

The check of a struct compares its indices with the lengths of the members that they point into:
each index value that can be reached in a field, and each of them once. The member is found by its
name and by the base of its type, while its length is taken of the member as it is declared. So the
length is that of a nested sequence only where the member has no wrapper; an array of sequences is
measured by its own length.

Main results:

- `Emission.Validation.indices_eq_ok`: the code of a check is put together from fields.
- `Emission.Validation.isTarget_of_sequence?`: the member that an index points into.
- `Generator.index_checks_measure_members`: the checks of a struct.
-/

namespace TagSchema
namespace Emission
namespace Validation

variable {s : Subject} {field : AnnotatedField}

/-! ## Code of a check -/

/-- The check of one index value: it is flagged unless it is null or below the length of a
member. -/
def pastEnd (member index : String) : String :=
  render (block
    ("if " ++ (index ++ " != NULL_INDEX && usize::from(" ++ index ++ ") >= self." ++ member ++
      ".len()"))
    (line "invalid = true;"))

/-- The code that checks indices, from the code of each field. -/
def indexCode (s : Subject) (checks : List String) : String :=
  implFor s [method "pub fn check_for_invalid_indices(&self) -> bool"
    ("let mut invalid = false;\n" ++ String.join checks ++ "invalid\n")]

/-- The code that checks the indices of a field, nothing when it has no step. -/
def indexCheckOf (step : Option (Step IndexCheck)) : String :=
  (step.map (Step.render writeIndex)).getD ""

/-- The code of a check is put together from fields. -/
theorem indices_eq_ok {code : String} (h : indices s = .ok code) :
    ∃ steps, s.fields.mapM (indexStep? s) = .ok steps ∧
      code = indexCode s (steps.map indexCheckOf) := by
  rw [indices, Stepwise.bind_eq_ok_iff] at h
  rcases h with ⟨body, hbody, hcode⟩
  rw [indexBody, Stepwise.bind_eq_ok_iff] at hbody
  rcases hbody with ⟨steps, hsteps, hbody⟩
  refine ⟨steps, hsteps, ?_⟩
  have hjoin : _ = String.join (steps.map indexCheckOf) :=
    Piece.renderAll_filterMap writeIndex id steps
  rw [← Except.ok.inj hcode, ← Except.ok.inj hbody, indexCode, ← hjoin]
  simp [Piece.renderAll, Piece.render, String.join_append, String.join_cons, String.append_assoc]

/-- The check of a field stands for one check of each index value of an element. -/
theorem writeIndex_into (member : String) {type : FieldType} (h : type.arrayFree = true)
    (place : Place) : writeIndex (.into member type) place =
      String.join (type.paths.map fun path => pastEnd member (Access.reached place.own path)) := by
  rw [writeIndex, indexPlaces_eq h, List.flatMap_map]
  induction type.paths with
  | nil => rfl
  | cons path paths ih =>
      rw [List.flatMap_cons, List.map_cons, String.join_cons, ← ih, render, List.map_append,
        String.join_append]
      rfl

/-! ## Members that indices point into -/

/-- A field is the first with a name that holds nested sequences, with or without wrappers. -/
def IsTarget (s : Subject) (name : String) (target : AnnotatedField) : Prop :=
  ∃ before after, s.fields = before ++ target :: after ∧
    (∀ field ∈ before, field.name = name → field.type.isReflexive = false) ∧
    target.name = name ∧ target.type.isReflexive = true

/-- The member that is found by name is the first of it that holds nested sequences. -/
theorem isTarget_of_sequence? {name : String} {target : AnnotatedField}
    (h : sequence? s name = some target) : IsTarget s name target := by
  rw [sequence?, List.find?_eq_some_iff_append] at h
  rcases h with ⟨hfound, before, after, hfields, hearlier⟩
  rw [Bool.and_eq_true, decide_eq_true_eq] at hfound
  refine ⟨before, after, hfields, ?_, hfound⟩
  intro field hfield hname
  have hpassed := hearlier field hfield
  simpa [hname] using hpassed

theorem IsTarget.mem {name : String} {target : AnnotatedField} (h : IsTarget s name target) :
    target ∈ s.fields := by
  rcases h with ⟨before, after, hfields, _⟩
  simp [hfields]

/-- An index is no nested sequence. -/
theorem isReflexive_of_isIndex (h : field.type.isIndex = true) :
    field.type.isReflexive = false := by
  rw [FieldType.isIndex, decide_eq_true_eq] at h
  exact FieldType.isReflexive_of_valueClass? h

/-- An index that points into a member is checked against the first of its name. -/
theorem exists_target_of_indexStep? {name : String} (hindex : field.type.isIndex = true)
    (hname : field.definition.indexOf = some name) {step : Option (Step IndexCheck)}
    (h : indexStep? s field = .ok step) :
    ∃ target, IsTarget s name target ∧
      step = some (.each field (.into target.ident field.type.element)) := by
  simp only [indexStep?, hname, hindex, Option.filter_some, if_true] at h
  cases hsequence : sequence? s name with
  | none =>
      simp only [hsequence] at h
      cases h
  | some target =>
      simp only [hsequence] at h
      exact ⟨target, isTarget_of_sequence? hsequence, (Except.ok.inj h).symm⟩

/-- An index that points nowhere is not checked. -/
theorem indexStep?_of_none (hindex : field.type.isIndex = true)
    (hname : field.definition.indexOf = none) {step : Option (Step IndexCheck)}
    (h : indexStep? s field = .ok step) : step = none := by
  simp only [indexStep?, hname, Option.filter_none, isReflexive_of_isIndex hindex] at h
  exact (Except.ok.inj h).symm

/-! ## Checks of indices -/

/-- The check of an index field against the member with a name. -/
structure ChecksAgainst (s : Subject) (field : AnnotatedField) (name : String)
    (target : AnnotatedField) (check : String) : Prop where
  /-- The member is the first of its name that holds nested sequences. -/
  found : IsTarget s name target
  /-- In each element of the field, each value that can be reached is checked once. -/
  values : ∃ paths : List (List Access),
    (∀ path, path ∈ paths ↔ FieldType.Reaches field.type.element path) ∧
    (∀ place, (paths.map (Access.reached place)).Nodup) ∧
    check = onEach field fun place =>
      String.join (paths.map fun path => pastEnd target.ident (Access.reached place.own path))
  /-- The length is that of a nested sequence exactly if the member is declared without wrappers. -/
  measured : (∃ struct spelling, target.type = .reflexive struct spelling) ↔
    target.definition.count ≤ 1 ∧ target.definition.bounds = false ∧
      target.definition.flagged = false
  /-- Of several nested sequences it is their number. -/
  counted : 1 < target.definition.count → target.type.arrayLength? = some target.definition.count

end Validation
end Emission

namespace Generator

open Emission Validation

variable {g : Generator} {id : g.StructId} {annotated : Annotated}

/-- The type of an annotated field was resolved from its definition. -/
theorem exists_resolveType_of_annotate (h : g.annotate id = .ok annotated) {field : AnnotatedField}
    (hfield : field ∈ annotated.fields) :
    ∃ owner, g.catalog.resolveType g.registry owner field.definition = .ok field.type := by
  rcases (Tables.mem_annotated_iff h).1 hfield with ⟨flat, _, hflat⟩
  refine ⟨flat.owner, ?_⟩
  rw [hflat.definition]
  exact hflat.type

/-- The step of an index field checks it against the member that it names. -/
theorem checksAgainst_of_indexStep? (h : g.annotate id = .ok annotated) {ident name : String}
    {field : AnnotatedField} (hfield : field ∈ annotated.fields)
    (hindex : field.type.isIndex = true)
    (hname : field.definition.indexOf = some name) {step : Option (Step IndexCheck)}
    (hstep : indexStep? (g.subject id ident annotated) field = .ok step) :
    ∃ target, ChecksAgainst (g.subject id ident annotated) field name target
      (indexCheckOf step) := by
  rcases exists_target_of_indexStep? hindex hname hstep with ⟨target, htarget, rfl⟩
  rcases exists_resolveType_of_annotate h hfield with ⟨owner, htype⟩
  have hfree := Tables.arrayFree_element_of_resolveType htype
  rcases exists_resolveType_of_annotate h htarget.mem with ⟨targetOwner, hresolved⟩
  refine ⟨target, htarget, ?_, ?_, ?_⟩
  · refine ⟨field.type.element.paths, fun path => FieldType.mem_paths_iff, ?_, ?_⟩
    · intro place
      exact (FieldType.nodup_paths _).map (Access.reached_injective place)
    · rw [indexCheckOf, Option.map_some, Option.getD_some, Step.render_each]
      exact congrArg (onEach field) (funext (writeIndex_into target.ident hfree))
  · rcases htarget with ⟨_, _, _, _, _, hreflexive⟩
    exact Tables.reflexive_iff_of_resolveType hresolved hreflexive
  · intro hcount
    exact Tables.arrayLength?_of_resolveType hresolved hcount

/-- The check of a struct can be put together when every index that points into a member finds one
that holds nested sequences, with or without wrappers. It then checks each index value of such a
field against the length of the member that was found, and the other indices not at all. The length
is that of a nested sequence only where the member is declared without wrappers. -/
theorem index_checks_measure_members (g : Generator) {id : g.StructId} {annotated : Annotated}
    (h : g.annotate id = .ok annotated) (ident : String) :
    ((∃ code, indices (g.subject id ident annotated) = .ok code) ↔
      ∀ field ∈ annotated.fields, ∀ name, field.definition.indexOf = some name →
        field.type.isIndex = true →
          ∃ target ∈ annotated.fields, target.name = name ∧ target.type.isReflexive = true) ∧
    ∀ code, indices (g.subject id ident annotated) = .ok code →
      ∃ checks : List String, code = indexCode (g.subject id ident annotated) checks ∧
        checks.length = annotated.fields.length ∧
        ∀ (position : Nat) (field : AnnotatedField), annotated.fields[position]? = some field →
          field.type.isIndex = true → ∃ check, checks[position]? = some check ∧
            (field.definition.indexOf = none → check = "") ∧
            ∀ name, field.definition.indexOf = some name → ∃ target,
              ChecksAgainst (g.subject id ident annotated) field name target check := by
  constructor
  · rw [exists_indices_iff]
    simp only [exists_indexStep?_iff]
    rfl
  · intro code hcode
    rcases indices_eq_ok hcode with ⟨steps, hsteps, hcode⟩
    refine ⟨steps.map indexCheckOf, hcode, ?_, ?_⟩
    · rw [List.length_map]
      exact Stepwise.length_of_mapM hsteps
    · intro position field hfield hindex
      rcases Stepwise.getElem?_of_mapM hsteps hfield with ⟨step, hposition, hstep⟩
      refine ⟨indexCheckOf step, by rw [List.getElem?_map, hposition]; rfl, ?_, ?_⟩
      · intro hnone
        rw [indexStep?_of_none hindex hnone hstep]
        rfl
      · intro name hname
        exact checksAgainst_of_indexStep? h (List.mem_of_getElem? hfield) hindex hname hstep

/-- Flotillas with ships and with three lines of ships, and indices into both. -/
def flotilla : Generator where
  catalog := {
    structs := [
      { name := "Ship", fields := [] },
      { name := "Flotilla",
        fields := [
          { memberName := "ships", type := .reflexive, target := some "Ship" },
          { memberName := "lines", type := .reflexive, target := some "Ship", count := 3 },
          { memberName := "escorts", type := .named "Index", bounds := true, count := 2,
            indexOf := some "ships" },
          { memberName := "leader", type := .named "Index", indexOf := some "lines" }] }]
    faultless := by decide }

/-- What the members of a struct tell about themselves: their names, whether they are indices and
into what, and how many values they hold. -/
def memberFacts (a : Annotated) : List (String × Bool × Option String × Nat) :=
  a.fields.map fun field =>
    (field.name, field.type.isIndex, field.definition.indexOf, field.definition.count)

/-- The escorts are checked, and the leader is checked against the number of lines, which is no
length of a nested sequence. -/
theorem flotilla_measures_members :
    ∃ (id : flotilla.StructId) (annotated : Annotated) (code : String),
      flotilla.annotate id = .ok annotated ∧
      indices (flotilla.subject id "Flotilla" annotated) = .ok code ∧
      (∃ escorts target check, annotated.fields[2]? = some escorts ∧
        ChecksAgainst (flotilla.subject id "Flotilla" annotated) escorts "ships" target check) ∧
      ∃ leader target check, annotated.fields[3]? = some leader ∧
        ChecksAgainst (flotilla.subject id "Flotilla" annotated) leader "lines" target check ∧
        target.type.arrayLength? = some 3 ∧
        ¬ ∃ struct spelling, target.type = .reflexive struct spelling := by
  let id : flotilla.StructId := ⟨1, by decide⟩
  have hfacts : (flotilla.annotate id).map memberFacts =
      .ok [("ships", false, none, 1), ("lines", false, none, 3), ("escorts", true, some "ships", 2),
        ("leader", true, some "lines", 1)] := by
    decide +kernel
  have hchecked : (flotilla.annotate id >>=
      fun a => indices (flotilla.subject id "Flotilla" a)).isOk = true := by
    decide +kernel
  rcases Stepwise.map_eq_ok_iff.1 hfacts with ⟨annotated, hannotated, hmembers⟩
  rw [hannotated] at hchecked
  rcases Stepwise.exists_ok_of_isOk hchecked with ⟨code, hcode⟩
  rcases (flotilla.index_checks_measure_members hannotated "Flotilla").2 code hcode with
    ⟨checks, _, _, hfields⟩
  have hfield : ∀ (position : Nat) (name target : String) (count : Nat),
      (memberFacts annotated)[position]? = some (name, true, some target, count) →
      ∃ field member check, annotated.fields[position]? = some field ∧
        ChecksAgainst (flotilla.subject id "Flotilla" annotated) field target member check := by
    intro position name target count hfact
    rw [memberFacts, List.getElem?_map, Option.map_eq_some_iff] at hfact
    rcases hfact with ⟨field, hposition, hfact⟩
    simp only [Prod.mk.injEq] at hfact
    rcases hfields position field hposition hfact.2.1 with ⟨check, _, _, hagainst⟩
    rcases hagainst target hfact.2.2.1 with ⟨member, hmember⟩
    exact ⟨field, member, check, hposition, hmember⟩
  refine ⟨id, annotated, code, hannotated, hcode, ?_, ?_⟩
  · exact hfield 2 "escorts" "ships" 2 (by rw [hmembers]; rfl)
  · rcases hfield 3 "leader" "lines" 1 (by rw [hmembers]; rfl) with
      ⟨leader, member, check, hleader, hagainst⟩
    have hcount : member.definition.count = 3 := by
      have hmem : (member.name, member.type.isIndex, member.definition.indexOf,
          member.definition.count) ∈ memberFacts annotated :=
        List.mem_map_of_mem hagainst.found.mem
      rcases hagainst.found with ⟨_, _, _, _, hname, _⟩
      rw [hmembers, hname] at hmem
      have hentry : member.type.isIndex = false ∧ member.definition.indexOf = none ∧
          member.definition.count = 3 := by
        simpa using hmem
      exact hentry.2.2
    refine ⟨leader, member, check, hleader, hagainst, ?_, ?_⟩
    · rw [hagainst.counted (by omega), hcount]
    · rw [hagainst.measured]
      omega

end Generator
end TagSchema
