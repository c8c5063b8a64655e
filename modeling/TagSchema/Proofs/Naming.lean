import Mathlib.Data.List.Nodup
import TagSchema.Catalog.Basic

/-!
# Names in a catalog

No name is defined twice in a catalog, so a name leads to the definition that has it and to no
other.

Main results:

- `Tables.repeatedName?_eq_none_iff`: the check for repeated names.
- `Catalog.distinctNames`: the names of all definitions are distinct.
- `Catalog.structId?_eq_some_iff`: the look-up by name finds exactly the struct with that name.
- `Catalog.definitionNamed?_eq_some_iff`: a name refers to exactly the definition that has it.
-/

namespace TagSchema

/-- The name that a definition gives to a type. -/
def Definition.name : Definition → String
  | .enumeration e => e.name
  | .bitfield b => b.name
  | .struct s => s.name

namespace Tables

/-- All definitions of the tables, kind by kind. -/
def definitions (t : Tables) : List Definition :=
  t.enums.map .enumeration ++ t.bitfields.map .bitfield ++ t.structs.map .struct

/-- No name is defined twice, whatever the kinds of the definitions. -/
def DistinctNames (t : Tables) : Prop :=
  (t.definitions.map Definition.name).Nodup

theorem map_snd_names (t : Tables) : t.names.map Prod.snd = t.definitions.map Definition.name := by
  simp [names, definitions, Definition.name, Function.comp_def]

/-- Two definitions with the same name are the same definition. -/
theorem DistinctNames.definition_injective {t : Tables} (h : t.DistinctNames) {d other : Definition}
    (hd : d ∈ t.definitions) (hother : other ∈ t.definitions) (hname : d.name = other.name) :
    d = other :=
  List.inj_on_of_nodup_map h hd hother hname

/-- Two structs with the same name are the same struct. -/
theorem DistinctNames.struct_injective {t : Tables} (h : t.DistinctNames) {s other : t.StructId}
    (hname : (t.struct s).name = (t.struct other).name) : s = other := by
  have hnodup : (t.structs.map (·.name)).Nodup := by
    simp only [DistinctNames, definitions, List.map_append, List.map_map] at h
    exact (List.nodup_append.1 h).2.1
  have hlength : ∀ id : t.StructId, id.val < (t.structs.map (·.name)).length := by simp
  have hget := @List.Nodup.getElem_inj_iff _ _ hnodup _ (hlength s) _ (hlength other)
  rw [List.getElem_map, List.getElem_map] at hget
  exact Fin.ext (hget.1 hname)

/-- The look-up by name finds exactly the struct with that name. -/
theorem DistinctNames.structId?_eq_some_iff {t : Tables} (h : t.DistinctNames) {name : String}
    {id : t.StructId} : t.structId? name = some id ↔ (t.struct id).name = name := by
  have hstruct : ∀ id : t.StructId, t.structs[id.val] = t.struct id := fun _ => rfl
  simp only [structId?, List.findFinIdx?_eq_some_iff, Fin.getElem_fin, beq_iff_eq, hstruct]
  constructor
  · exact fun hfound => hfound.1
  · intro hname
    refine ⟨hname, fun j hj hsame => ?_⟩
    have heq : j = id := h.struct_injective (hsame.trans hname.symm)
    exact absurd hj (heq ▸ Nat.lt_irrefl _)

/-- The definition that a reference leads to. -/
def entry (t : Tables) : TypeRef t.structs.length → Definition
  | .enumeration e => .enumeration e
  | .bitfield b => .bitfield b
  | .struct id => .struct (t.struct id)

/-- The definition that a name refers to. -/
def definitionNamed? (t : Tables) (name : String) : Option Definition :=
  (t.typeNamed? name).map t.entry

/-- Sorting definitions by kind keeps all of them. -/
theorem mem_definitions_ofDefinitions {definitions : List Definition} {d : Definition} :
    d ∈ (ofDefinitions definitions).definitions ↔ d ∈ definitions := by
  simp only [Tables.definitions, ofDefinitions, List.mem_append, List.mem_map, List.mem_filterMap]
  constructor
  · rintro ((⟨e, ⟨other, hother, he⟩, rfl⟩ | ⟨b, ⟨other, hother, hb⟩, rfl⟩) |
      ⟨s, ⟨other, hother, hs⟩, rfl⟩)
    · cases other <;> cases he
      exact hother
    · cases other <;> cases hb
      exact hother
    · cases other <;> cases hs
      exact hother
  · intro hd
    cases d with
    | enumeration e => exact Or.inl (Or.inl ⟨e, ⟨_, hd, rfl⟩, rfl⟩)
    | bitfield b => exact Or.inl (Or.inr ⟨b, ⟨_, hd, rfl⟩, rfl⟩)
    | struct s => exact Or.inr ⟨s, ⟨_, hd, rfl⟩, rfl⟩

/-- A struct is among the definitions when it has a number. -/
theorem struct_mem_definitions_iff {t : Tables} {s : StructDef} :
    .struct s ∈ t.definitions ↔ ∃ id, t.struct id = s := by
  have hmem : s ∈ t.structs ↔ ∃ id, t.struct id = s := List.mem_iff_get
  simp [definitions, hmem]

/-- With distinct names, a name is that of a struct when a struct has it. -/
theorem DistinctNames.typeNamed?_struct_iff {t : Tables} (h : t.DistinctNames) {name : String} :
    (∃ id, t.typeNamed? name = some (.struct id)) ↔ ∃ s ∈ t.structs, s.name = name := by
  constructor
  · rintro ⟨id, hid⟩
    unfold typeNamed? at hid
    split at hid
    · cases hid
    · split at hid
      · cases hid
      · obtain ⟨found, hfound, heq⟩ := Option.map_eq_some_iff.1 hid
        cases heq
        exact ⟨t.struct id, List.get_mem _ _, h.structId?_eq_some_iff.1 hfound⟩
  · rintro ⟨s, hs, rfl⟩
    have hdefinition : .struct s ∈ t.definitions := by simp [definitions, hs]
    have henums : t.enums.find? (·.name == s.name) = none := by
      rw [List.find?_eq_none]
      intro e he heq
      have hsame := h.definition_injective (d := .enumeration e) (by simp [definitions, he])
        hdefinition (beq_iff_eq.1 heq)
      cases hsame
    have hbitfields : t.bitfields.find? (·.name == s.name) = none := by
      rw [List.find?_eq_none]
      intro b hb heq
      have hsame := h.definition_injective (d := .bitfield b) (by simp [definitions, hb])
        hdefinition (beq_iff_eq.1 heq)
      cases hsame
    obtain ⟨id, rfl⟩ := struct_mem_definitions_iff.1 hdefinition
    refine ⟨id, ?_⟩
    simp only [typeNamed?, henums, hbitfields, h.structId?_eq_some_iff.2 rfl, Option.map_some]

/-- No name is repeated when the names are distinct and none was seen before. -/
theorem repeatedName?_eq_none_iff {seen : List String} {entries : List (DefinitionKind × String)} :
    repeatedName? seen entries = none ↔
      (entries.map Prod.snd).Nodup ∧ ∀ entry ∈ entries, entry.2 ∉ seen := by
  induction entries generalizing seen with
  | nil => simp [repeatedName?]
  | cons entry entries ih =>
      obtain ⟨kind, name⟩ := entry
      by_cases hseen : name ∈ seen
      · simp [repeatedName?, hseen]
      · simp only [repeatedName?, List.contains_eq_mem, hseen, decide_false, Bool.false_eq_true,
          if_false, ih, List.map_cons, List.nodup_cons, List.mem_map, List.mem_cons, not_or,
          forall_eq_or_imp, not_false_eq_true, true_and]
        constructor
        · rintro ⟨hnodup, hfresh⟩
          refine ⟨⟨?_, hnodup⟩, fun entry hentry => (hfresh entry hentry).2⟩
          rintro ⟨entry, hentry, heq⟩
          exact (hfresh entry hentry).1 heq
        · rintro ⟨⟨hnot, hnodup⟩, hfresh⟩
          refine ⟨hnodup, fun entry hentry => ⟨?_, hfresh entry hentry⟩⟩
          exact fun heq => hnot ⟨entry, hentry, heq⟩

/-- No name is reported as defined twice when the names are distinct. -/
theorem duplicateFault?_eq_none_iff {t : Tables} :
    t.duplicateFault? = none ↔ t.DistinctNames := by
  rw [duplicateFault?, Option.map_eq_none_iff, repeatedName?_eq_none_iff, DistinctNames,
    map_snd_names]
  simp

end Tables

namespace Catalog

variable (c : Catalog)

/-- The names of all definitions of a catalog are distinct. -/
theorem distinctNames : c.DistinctNames := by
  have h := c.faultless
  simp only [Tables.fault?, Option.or_eq_none_iff] at h
  exact Tables.duplicateFault?_eq_none_iff.1 h.1

/-- The look-up by name finds exactly the struct with that name. -/
theorem structId?_eq_some_iff {name : String} {id : c.StructId} :
    c.structId? name = some id ↔ (c.struct id).name = name :=
  c.distinctNames.structId?_eq_some_iff

/-! ## Definitions by name -/

/-- What a name refers to is a definition with that name. -/
theorem mem_of_definitionNamed? {name : String} {d : Definition}
    (h : c.definitionNamed? name = some d) : d ∈ c.definitions ∧ d.name = name := by
  unfold Tables.definitionNamed? Tables.typeNamed? at h
  split at h
  · rename_i e he
    cases h
    have hname := List.find?_some he
    have hmem := List.mem_of_find?_eq_some he
    exact ⟨by simp [Tables.definitions, Tables.entry, hmem],
      by simpa [Definition.name, Tables.entry] using hname⟩
  · split at h
    · rename_i b hb
      cases h
      have hname := List.find?_some hb
      have hmem := List.mem_of_find?_eq_some hb
      exact ⟨by simp [Tables.definitions, Tables.entry, hmem],
        by simpa [Definition.name, Tables.entry] using hname⟩
    · rw [Option.map_map, Option.map_eq_some_iff] at h
      obtain ⟨id, hid, rfl⟩ := h
      exact ⟨Tables.struct_mem_definitions_iff.2 ⟨id, rfl⟩, c.structId?_eq_some_iff.1 hid⟩

/-- The name of a definition refers to something. -/
theorem definitionNamed?_ne_none {d : Definition} (hd : d ∈ c.definitions) :
    c.definitionNamed? d.name ≠ none := by
  intro hnone
  simp only [Tables.definitionNamed?, Option.map_eq_none_iff, Tables.typeNamed?] at hnone
  split at hnone
  · cases hnone
  · rename_i henums
    split at hnone
    · cases hnone
    · rename_i hbitfields
      rw [List.find?_eq_none] at henums hbitfields
      cases d with
      | enumeration e =>
          have he : e ∈ c.enums := by simpa [Tables.definitions] using hd
          exact henums e he (by simp [Definition.name])
      | bitfield b =>
          have hb : b ∈ c.bitfields := by simpa [Tables.definitions] using hd
          exact hbitfields b hb (by simp [Definition.name])
      | struct s =>
          obtain ⟨id, rfl⟩ := Tables.struct_mem_definitions_iff.1 hd
          have hid := c.structId?_eq_some_iff.2 (rfl : (c.struct id).name = _)
          simp [Definition.name, hid] at hnone

/-- A name refers to exactly the definition that has it. -/
theorem definitionNamed?_eq_some_iff {name : String} {d : Definition} :
    c.definitionNamed? name = some d ↔ d ∈ c.definitions ∧ d.name = name := by
  constructor
  · exact c.mem_of_definitionNamed?
  · rintro ⟨hd, rfl⟩
    obtain ⟨other, hother⟩ := Option.ne_none_iff_exists'.1 (c.definitionNamed?_ne_none hd)
    obtain ⟨hmem, hname⟩ := c.mem_of_definitionNamed? hother
    rw [hother, c.distinctNames.definition_injective hmem hd hname]

end Catalog
end TagSchema
