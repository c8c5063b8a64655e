import TagSchema.Proofs.Emittable
import TagSchema.Proofs.Inheritance
import TagSchema.Proofs.Locality

/-!
# Exclusions that are checked

A field may list options or bits that only some structs exclude. An entry is looked up for each
struct that exposes the field, when it applies to that struct. So generation checks the entries that
apply to the struct which declares the field or to a descendant of it, and no others.

Main results:

- `Tables.exists_base_of_resolveType`: the base of a field that names a type.
- `Catalog.mem_flatten_of_exposed`: a field is exposed by its struct and by all descendants.
- `Generator.unmatched_scope_is_not_checked`: an entry that applies to no struct.
- `Generator.applicable_exclusions_exist`: the entries that generation checks.
-/

namespace TagSchema

/-! ## Named types -/

namespace FieldType

variable {ident : String} {kind : NamedKind} {native : Bool} {type : FieldType}

/-- Native byte order keeps what the base names. -/
theorem exists_base_inNativeOrder (h : type.base = .named ident kind native) :
    ∃ native, type.inNativeOrder.base = .named ident kind native := by
  induction type with
  | named =>
      cases h
      exact ⟨true, rfl⟩
  | flagged inner ih => exact ih h
  | _ => exact ⟨native, h⟩

theorem base_repeated (type : FieldType) (count : Nat) :
    (type.repeated count).base = type.base := by
  unfold repeated
  split <;> rfl

end FieldType

/-- The wrappers of a field keep what the base names. -/
theorem FieldDef.exists_base_wrap (field : FieldDef) (ident : String) (kind : NamedKind)
    (native : Bool) :
    ∃ native', (field.wrap (.named ident kind native)).base = .named ident kind native' := by
  have hflagged : (if field.flagged then .flagged (.named ident kind native)
      else FieldType.named ident kind native).base = .named ident kind native := by
    split <;> rfl
  have hordered := FieldType.exists_base_inNativeOrder hflagged
  unfold wrap
  rw [FieldType.base_repeated]
  by_cases hcompound : field.compound = true
  · obtain ⟨native', hnative⟩ := hordered
    refine ⟨native', ?_⟩
    simp only [hcompound, if_true]
    split
    · exact hnative
    · exact hnative
  · refine ⟨native, ?_⟩
    simp only [hcompound]
    split
    · exact hflagged
    · exact hflagged

namespace Tables

variable {t : Tables} {registry : Registry} {owner name : String} {field : FieldDef}
  {type : FieldType}

/-- The base of a field that names a type is of the kind that the name stands for. -/
theorem exists_base_of_resolveType {kind : NamedKind} (hname : field.type = .named name)
    (hkind : t.namedKind? registry name = some kind)
    (h : t.resolveType registry owner field = .ok type) :
    ∃ ident native, type.base = .named ident kind native := by
  simp only [resolveType, hname, hkind, Stepwise.bind_eq_ok_iff] at h
  obtain ⟨ident, _, htype⟩ := h
  cases htype
  exact ⟨ident, field.exists_base_wrap ident kind false⟩

/-- A field that names an enum resolves to that enum. -/
theorem enum?_of_resolveType {e : EnumDef} (hname : field.type = .named name)
    (he : t.typeNamed? name = some (.enumeration e))
    (h : t.resolveType registry owner field = .ok type) : type.enum? = some e := by
  have hkind : t.namedKind? registry name = some (.enumeration e) := by simp only [namedKind?, he]
  obtain ⟨ident, native, hbase⟩ := exists_base_of_resolveType hname hkind h
  simp only [FieldType.enum?, hbase]

theorem bitfield?_of_resolveType {b : BitfieldDef} (hname : field.type = .named name)
    (hb : t.typeNamed? name = some (.bitfield b))
    (h : t.resolveType registry owner field = .ok type) : type.bitfield? = some b := by
  have hkind : t.namedKind? registry name = some (.bitfield b) := by simp only [namedKind?, hb]
  obtain ⟨ident, native, hbase⟩ := exists_base_of_resolveType hname hkind h
  simp only [FieldType.bitfield?, hbase]

/-- A struct exposes the fields that it declares, unless they are left out. -/
theorem mem_flatten_of_own {id : t.StructId} {placeholders : List String}
    (hfield : field ∈ (t.struct id).fields) (hexposed : field.isElided placeholders = false) :
    ⟨(t.struct id).name, field⟩ ∈ (t.flatten placeholders id).fields := by
  have hlevel : t.struct id ∈ t.levels id := List.mem_of_getLast? (t.getLast?_levels id)
  have hdeclared : ⟨(t.struct id).name, field⟩ ∈ t.declaredFields id :=
    List.mem_flatMap.2 ⟨t.struct id, hlevel, List.mem_map.2 ⟨field, hfield, rfl⟩⟩
  rw [flatten_eq, List.mem_filter]
  exact ⟨hdeclared, by simp [hexposed]⟩

end Tables

/-- A field is exposed by the struct that declares it and by all structs that inherit from it. -/
theorem Catalog.mem_flatten_of_exposed {c : Catalog} {id user : c.StructId}
    {placeholders : List String} {field : FieldDef} (huser : user = id ∨ c.Ancestor user id)
    (hfield : field ∈ (c.struct id).fields) (hexposed : field.isElided placeholders = false) :
    ⟨(c.struct id).name, field⟩ ∈ (c.flatten placeholders user).fields := by
  have hown := Tables.mem_flatten_of_own hfield hexposed
  rcases huser with rfl | hancestor
  · exact hown
  · exact (Catalog.fields_flatten_prefix hancestor placeholders).subset hown

/-! ## Generation -/

namespace Generator

variable {g : Generator}

/-- When generation succeeds, every struct was annotated. -/
theorem exists_annotated_of_generate {generated : Generated g.catalog.toTables}
    (h : g.generate = .ok generated) (id : g.StructId) :
    ∃ annotated, g.annotate id = .ok annotated := by
  obtain ⟨emitted, hemitted⟩ := exists_generate_iff.1 ⟨generated, h⟩ id
  obtain ⟨annotated, hannotated, _⟩ := exists_annotated_of_emitted hemitted
  exact ⟨annotated, hannotated⟩

/-- A generator with an entry whose scope lists no struct that exposes the field; the enum has no
such option. -/
def armorer : Generator where
  catalog := {
    enums := [{ name := "Grade", options := ["low", "high"] }]
    structs := [
      { name := "Blade",
        fields := [
          { memberName := "grade", type := .named "Grade",
            exclude := [{ option := "none", scope := some ["Sword"] }] }] }]
    faultless := by decide }

/-- An entry that applies to no struct which exposes the field is not looked up: generation succeeds
although the enum of the field has no option with that name. -/
theorem unmatched_scope_is_not_checked :
    ¬ ∀ (g : Generator) (generated : Generated g.catalog.toTables), g.generate = .ok generated →
      ∀ (id : g.StructId) (field : FieldDef), field ∈ (g.catalog.struct id).fields →
        field.isElided g.config.placeholders = false → ∀ entry ∈ field.exclude,
        (∀ name e, field.type = .named name → g.catalog.typeNamed? name = some (.enumeration e) →
          entry.option ∈ e.options) ∧
        ∀ name b, field.type = .named name → g.catalog.typeNamed? name = some (.bitfield b) →
          entry.option ∈ b.fields := by
  intro hall
  obtain ⟨generated, hgenerated⟩ := Stepwise.exists_ok_of_isOk (show
    armorer.generate.isOk = true by decide +kernel)
  have hoption := (hall armorer generated hgenerated ⟨0, by decide⟩
    { memberName := "grade", type := .named "Grade",
      exclude := [{ option := "none", scope := some ["Sword"] }] }
    (by decide +kernel) rfl { option := "none", scope := some ["Sword"] } (by decide)).1
    "Grade" { name := "Grade", options := ["low", "high"] } rfl rfl
  exact absurd hoption (by decide)

/-- Generation checks exclusions. When it succeeds, every entry of a field that names an enum or a
bitfield and is not left out names an option or a bit, if the entry applies to the struct that
declares the field or to a struct that inherits from it, directly or through others. -/
theorem applicable_exclusions_exist {generated : Generated g.catalog.toTables}
    (h : g.generate = .ok generated) (id : g.StructId) (field : FieldDef)
    (hfield : field ∈ (g.catalog.struct id).fields)
    (hexposed : field.isElided g.config.placeholders = false) (entry : ExcludeEntry)
    (hentry : entry ∈ field.exclude) (user : g.StructId)
    (huser : user = id ∨ g.catalog.Ancestor user id)
    (happlies : entry.appliesTo (g.catalog.struct user).name = true) :
    (∀ name e, field.type = .named name → g.catalog.typeNamed? name = some (.enumeration e) →
      entry.option ∈ e.options) ∧
    ∀ name b, field.type = .named name → g.catalog.typeNamed? name = some (.bitfield b) →
      entry.option ∈ b.fields := by
  have hflat := Catalog.mem_flatten_of_exposed huser hfield hexposed
  obtain ⟨hresolved, hlisted⟩ := exists_annotate_iff.1 (exists_annotated_of_generate h user)
  obtain ⟨type, htype, _⟩ := hresolved _ hflat
  obtain ⟨hoptions, hbits⟩ := hlisted _ hflat type htype entry hentry happlies
  constructor
  · intro name e hname he
    exact hoptions e (Tables.enum?_of_resolveType hname he htype)
  · intro name b hname hb
    exact hbits b (Tables.bitfield?_of_resolveType hname hb htype)

/-- An option that only a descendant at depth two excludes. -/
theorem workshop_exclusion_exists :
    ∃ (generated : Generated workshop.catalog.toTables) (saber tool : workshop.StructId)
        (field : FieldDef) (entry : ExcludeEntry) (e : EnumDef),
      workshop.generate = .ok generated ∧ workshop.catalog.Ancestor saber tool ∧
      field ∈ (workshop.catalog.struct tool).fields ∧ entry ∈ field.exclude ∧
      entry.appliesTo (workshop.catalog.struct tool).name = false ∧
      entry.appliesTo (workshop.catalog.struct saber).name = true ∧
      workshop.catalog.typeNamed? "Grade" = some (.enumeration e) ∧ entry.option ∈ e.options := by
  obtain ⟨generated, hgenerated⟩ := Stepwise.exists_ok_of_isOk (show
    workshop.generate.isOk = true by decide +kernel)
  let saber : workshop.StructId := ⟨0, by decide⟩
  let sword : workshop.StructId := ⟨3, by decide⟩
  let tool : workshop.StructId := ⟨1, by decide⟩
  let entry : ExcludeEntry := { option := "low", scope := some ["Saber"] }
  let field : FieldDef := { memberName := "grade", type := .named "Grade", exclude := [entry] }
  let e : EnumDef := { name := "Grade", options := ["low", "high"] }
  have hsaber : workshop.catalog.parent? saber = some sword := by decide +kernel
  have hsword : workshop.catalog.parent? sword = some tool := by decide +kernel
  have hancestor : workshop.catalog.Ancestor saber tool :=
    Relation.TransGen.tail (Relation.TransGen.single hsaber) hsword
  have hfield : field ∈ (workshop.catalog.struct tool).fields := by decide +kernel
  have happlies : entry.appliesTo (workshop.catalog.struct saber).name = true := by decide
  have he : workshop.catalog.typeNamed? "Grade" = some (.enumeration e) := rfl
  have hentry : entry ∈ field.exclude := List.mem_cons_self
  exact ⟨generated, saber, tool, field, entry, e, hgenerated, hancestor, hfield, hentry, by decide,
    happlies, he, (applicable_exclusions_exist hgenerated tool field hfield rfl entry hentry saber
      (Or.inr hancestor) happlies).1 "Grade" e rfl he⟩

end Generator
end TagSchema
