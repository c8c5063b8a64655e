import TagSchema.Proofs.Declarations
import TagSchema.Proofs.Emittable
import TagSchema.Proofs.Identifiers

/-!
# Names in the declarations

The declarations hold one item for each struct and one more for the trait of its hooks, when it asks
for some. Only the names of the definitions are checked to be different, so names of items and of
members may come out the same. This happens exactly when one name is another one behind a mark, when
a struct is named like the trait of another one, or when a member name is used twice along a chain
of parents.

Main results:

- `Generator.declarations_of_generate`: the declarations as a whole.
- `Generator.nodup_itemNames_iff`: when the items have different names.
- `Generator.nodup_memberNames_iff`: when the members of a struct have different names.
- `Generator.generated_names_may_clash`: items and members with the same name.
- `Generator.generated_names_distinct_iff`: the names in the declarations.
-/

namespace TagSchema

/-! ## Items and members -/

namespace Emission

/-- The names of the members of a struct. -/
def Subject.memberNames (s : Subject) : List String :=
  s.fields.map (·.ident)

end Emission

open Emission Text

/-- The items of the declarations. -/
inductive Item (t : Tables) where
  | struct (id : t.StructId)
  | hooks (id : t.StructId)
deriving DecidableEq

/-- The items in the order in which they are declared: every struct, and the trait of its hooks when
it asks for some. -/
def Catalog.items (c : Catalog) : List (Item c.toTables) :=
  c.dependencyOrder.flatMap fun id =>
    .struct id :: if (c.struct id).capabilities.hooks.isEmpty then [] else [.hooks id]

namespace Item

variable {t : Tables}

/-- The name of an item, given what the passes look at. -/
def name (subjectOf : t.StructId → Subject) : Item t → String
  | struct id => (subjectOf id).ident
  | hooks id => (subjectOf id).hooksTrait

/-- Two items come out with the same name: structs that are spelled alike, traits of structs with
the same bare name, or a struct that is named like the trait of a struct. -/
def NamedAlike : Item t → Item t → Prop
  | struct id, struct other => SpelledAlike (t.struct id).name (t.struct other).name
  | hooks id, hooks other => bareName (t.struct id).name = bareName (t.struct other).name
  | struct id, hooks other | hooks other, struct id =>
    Identifier.isToken (t.struct id).name.toList = true ∧
      (t.struct id).name = bareName (t.struct other).name ++ "Hooks"

instance : DecidableRel (NamedAlike (t := t))
  | struct _, struct _ => inferInstanceAs (Decidable (SpelledAlike _ _))
  | hooks _, hooks _ => inferInstanceAs (Decidable (_ = _))
  | struct _, hooks _ => inferInstanceAs (Decidable (_ ∧ _))
  | hooks _, struct _ => inferInstanceAs (Decidable (_ ∧ _))

end Item

namespace Generator

variable {g : Generator} {id other : g.StructId} {s : Subject}

namespace IsSubject

theorem name (h : g.IsSubject id s) : s.name = (g.catalog.struct id).name := by
  obtain ⟨_, _, _, _, rfl⟩ := h
  rfl

theorem identifier? (h : g.IsSubject id s) : identifier? s.name = some s.ident := by
  obtain ⟨_, _, hident, _, rfl⟩ := h
  exact requireIdentifier_eq_ok_iff.1 hident

theorem capabilities (h : g.IsSubject id s) :
    s.capabilities = (g.catalog.struct id).capabilities := by
  obtain ⟨_, _, _, _, rfl⟩ := h
  rfl

/-- Members are spelled like the fields that the struct exposes. -/
theorem map_ident (h : g.IsSubject id s) :
    s.memberNames.map some = (g.flatten id).fields.map fun flat =>
      Text.identifier? flat.field.memberName := by
  obtain ⟨_, annotated, _, hannotated, rfl⟩ := h
  have hresolved := Stepwise.map_eq_of_mapM (g := fun resolved => some resolved.ident)
    (f := fun flat => Text.identifier? flat.field.memberName)
    (Tables.resolveFields_of_annotate hannotated) (fun flat resolved hfield => by
      simp only [Tables.resolveField, Stepwise.bind_eq_ok_iff] at hfield
      obtain ⟨_, _, ident, hident, _, _, hresolved⟩ := hfield
      cases hresolved
      exact (requireIdentifier_eq_ok_iff.1 hident).symm)
  rw [flatten, ← hresolved, List.map_map, Subject.memberNames, List.map_map]
  rfl

end IsSubject

/-! ## The declarations -/

/-- The declarations: the preamble, then for each struct its declaration and the trait of its
hooks. -/
theorem declarations_of_generate (hpasses : g.passes = Pass.standardPasses)
    {generated : Generated g.catalog.toTables} (h : g.generate = .ok generated) :
    ∃ subjectOf : g.StructId → Subject, (∀ id, g.IsSubject id (subjectOf id)) ∧
      generated.text .declarations = g.config.preamble .declarations ++
        String.join (g.catalog.dependencyOrder.map fun id =>
          Value.declaration (subjectOf id) ++ Value.hooksDeclaration (subjectOf id)) := by
  obtain ⟨subjectOf, hsubject, htext⟩ :=
    g.declaresOnce_of_emitsOnce hpasses (g.generate_emitsOnce h)
  rw [structs_of_generate h] at htext
  exact ⟨subjectOf, hsubject, htext⟩

/-! ## Different names -/

/-- Two items have the same name when they come out alike. -/
theorem itemName_eq_iff {subjectOf : g.StructId → Subject}
    (hsubject : ∀ id, g.IsSubject id (subjectOf id)) (item next : Item g.catalog.toTables) :
    item.name subjectOf = next.name subjectOf ↔ item.NamedAlike next := by
  have hident (id : g.StructId) :
      Text.identifier? (g.catalog.struct id).name = some (subjectOf id).ident := by
    rw [← (hsubject id).name]
    exact (hsubject id).identifier?
  have htrait (id : g.StructId) :
      (subjectOf id).hooksTrait = bareName (g.catalog.struct id).name ++ "Hooks" := by
    rw [Subject.hooksTrait_eq (hsubject id).identifier?, (hsubject id).name]
  cases item with
  | struct id =>
      cases next with
      | struct other => exact identifier_eq_iff (hident id) (hident other)
      | hooks other =>
          rw [Item.name, Item.name, htrait]
          exact identifier_eq_traitName_iff (hident id) (hident other)
  | hooks id =>
      cases next with
      | struct other =>
          rw [Item.name, Item.name, htrait, eq_comm]
          exact identifier_eq_traitName_iff (hident other) (hident id)
      | hooks other =>
          rw [Item.name, Item.name, htrait, htrait, String.append_left_inj]
          rfl

/-- The items have different names when no two of them come out alike. -/
theorem nodup_itemNames_iff {subjectOf : g.StructId → Subject}
    (hsubject : ∀ id, g.IsSubject id (subjectOf id)) :
    (g.catalog.items.map (Item.name subjectOf)).Nodup ↔
      g.catalog.items.Pairwise fun item next => ¬ item.NamedAlike next := by
  rw [List.Nodup, List.pairwise_map]
  apply List.Pairwise.iff_of_mem
  intro item next _ _
  rw [ne_eq, itemName_eq_iff hsubject]

/-- The members of a struct have different names when no two fields that it exposes are spelled
alike. -/
theorem nodup_memberNames_iff (h : g.IsSubject id s) :
    s.memberNames.Nodup ↔ (g.flatten id).fields.Pairwise fun flat next =>
      ¬ SpelledAlike flat.field.memberName next.field.memberName := by
  have hspelled : ∀ flat ∈ (g.flatten id).fields,
      ∃ ident, Text.identifier? flat.field.memberName = some ident := by
    intro flat hflat
    have hmem : Text.identifier? flat.field.memberName ∈ s.memberNames.map some := by
      rw [h.map_ident]
      exact List.mem_map.2 ⟨flat, hflat, rfl⟩
    obtain ⟨ident, _, hident⟩ := List.mem_map.1 hmem
    exact ⟨ident, hident.symm⟩
  rw [← List.nodup_map_iff (Option.some_injective String), h.map_ident, List.Nodup,
    List.pairwise_map]
  apply List.Pairwise.iff_of_mem
  intro flat next hflat hnext
  obtain ⟨ident, hident⟩ := hspelled flat hflat
  obtain ⟨ident', hident'⟩ := hspelled next hnext
  rw [hident, hident', ← identifier_eq_iff hident hident', ne_eq, Option.some.injEq]

/-- A generator whose names come out alike in each way: a keyword and the same word behind a mark, a
struct that is named like a trait, and a member that a parent has too. -/
def jumble : Generator where
  catalog := {
    structs := [
      { name := "type" },
      { name := "r#type" },
      { name := "Foo", fields := [{ memberName := "a", type := .float }],
        capabilities := { hooks := [.preCompile] } },
      { name := "FooHooks", inherits := some "Foo",
        fields := [{ memberName := "a", type := .float }] }]
    faultless := by decide }

/-- Generation succeeds although two items, or two members of a struct, have the same name. -/
theorem generated_names_may_clash :
    (¬ ∀ (g : Generator) (generated : Generated g.catalog.toTables),
      g.passes = Pass.standardPasses → g.generate = .ok generated →
      ∀ subjectOf : g.StructId → Subject, (∀ id, g.IsSubject id (subjectOf id)) →
        (g.catalog.items.map (Item.name subjectOf)).Nodup) ∧
    ¬ ∀ (g : Generator) (generated : Generated g.catalog.toTables),
      g.passes = Pass.standardPasses → g.generate = .ok generated →
      ∀ subjectOf : g.StructId → Subject, (∀ id, g.IsSubject id (subjectOf id)) →
        ∀ id, (subjectOf id).memberNames.Nodup := by
  obtain ⟨generated, hgenerated⟩ := Stepwise.exists_ok_of_isOk (show
    jumble.generate.isOk = true by decide +kernel)
  obtain ⟨subjectOf, hsubject, _⟩ := declarations_of_generate rfl hgenerated
  constructor
  · intro hall
    have hnames := hall jumble generated rfl hgenerated subjectOf hsubject
    rw [nodup_itemNames_iff hsubject] at hnames
    exact absurd hnames (by decide +kernel)
  · intro hall
    let fooHooks : jumble.StructId := ⟨3, by decide⟩
    have hnames := hall jumble generated rfl hgenerated subjectOf hsubject fooHooks
    rw [nodup_memberNames_iff (hsubject fooHooks)] at hnames
    exact absurd hnames (by decide +kernel)

/-- The names in the declarations. When generation with the standard passes succeeds, the
declarations hold one item for each struct and one for the trait of its hooks. The items have
different names exactly when no two structs are spelled alike, no two structs with hooks have the
same bare name, and no struct is named like a trait. The members of a struct have different names
exactly when no two fields that it exposes, its own or those of its ancestors, are spelled alike.
Names are compared as they are spelled: a name with a mark and the same name without it differ,
though a compiler may read both as one. -/
theorem generated_names_distinct_iff (hpasses : g.passes = Pass.standardPasses)
    {generated : Generated g.catalog.toTables} (h : g.generate = .ok generated) :
    ∃ subjectOf : g.StructId → Subject,
      (∀ id, g.IsSubject id (subjectOf id)) ∧
      generated.text .declarations = g.config.preamble .declarations ++
        String.join (g.catalog.dependencyOrder.map fun id =>
          Value.declaration (subjectOf id) ++ Value.hooksDeclaration (subjectOf id)) ∧
      ((g.catalog.items.map (Item.name subjectOf)).Nodup ↔
        g.catalog.items.Pairwise fun item next => ¬ item.NamedAlike next) ∧
      ∀ id, (subjectOf id).memberNames.Nodup ↔
        (g.flatten id).fields.Pairwise fun flat next =>
          ¬ SpelledAlike flat.field.memberName next.field.memberName := by
  obtain ⟨subjectOf, hsubject, htext⟩ := declarations_of_generate hpasses h
  refine ⟨subjectOf, hsubject, htext, nodup_itemNames_iff hsubject, ?_⟩
  intro id
  exact nodup_memberNames_iff (hsubject id)

/-- A generator whose names come out different, with a keyword and with hooks. -/
def lineup : Generator where
  catalog := {
    structs := [
      { name := "type", capabilities := { hooks := [.postCompile] } },
      { name := "Foo", fields := [{ memberName := "a", type := .float }],
        capabilities := { hooks := [.preCompile] } },
      { name := "FooTrait", inherits := some "Foo",
        fields := [
          { memberName := "type", type := .float },
          { memberName := "b", type := .float }] }]
    faultless := by decide }

/-- A run whose names come out different, although some of them are close. -/
theorem lineup_names_distinct :
    ∃ generated, lineup.generate = .ok generated ∧ ∃ subjectOf : lineup.StructId → Subject,
      (∀ id, lineup.IsSubject id (subjectOf id)) ∧
      (lineup.catalog.items.map (Item.name subjectOf)).Nodup ∧
      ∀ id, (subjectOf id).memberNames.Nodup := by
  obtain ⟨generated, hgenerated⟩ := Stepwise.exists_ok_of_isOk (show
    lineup.generate.isOk = true by decide +kernel)
  obtain ⟨subjectOf, hsubject, _, hitems, hmembers⟩ := generated_names_distinct_iff rfl hgenerated
  have hapart : lineup.catalog.items.Pairwise fun item next => ¬ item.NamedAlike next := by
    decide +kernel
  have hfields : ∀ id, (lineup.flatten id).fields.Pairwise fun flat next =>
      ¬ SpelledAlike flat.field.memberName next.field.memberName := by decide +kernel
  exact ⟨generated, hgenerated, subjectOf, hsubject, hitems.2 hapart,
    fun id => (hmembers id).2 (hfields id)⟩

end Generator
end TagSchema
