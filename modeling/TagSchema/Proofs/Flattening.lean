import TagSchema.Catalog.Flattened
import TagSchema.Proofs.Ancestry

/-!
# Flattened structs in closed form

A struct is flattened level by level: the walk up from it ends at a struct without a parent, and the
fields are added from there down. So what it exposes is the concatenation of what its levels
declare, without the fields that are left out.

Main results:

- `Flattened.addLevel_eq`: what one level adds.
- `Tables.flatten_eq`: what all levels add.
- `Catalog.descent_iff`: there is one way from a root of inheritance down to a struct.
- `Catalog.flatten_eq_concatenation`: the fields and groups of a flattened struct.
-/

namespace TagSchema

/-! ## Fields that are left out -/

/-- Padding is left out, and so are nested sequences of placeholders. -/
theorem FieldDef.isElided_iff {placeholders : List String} {field : FieldDef} :
    field.isElided placeholders = true ↔ field.type = .pad ∨
      field.type = .reflexive ∧ ∃ target ∈ placeholders, field.target = some target := by
  unfold isElided
  split
  · rename_i hpad
    simp [hpad]
  · rename_i hreflexive
    cases field.target <;> simp [hreflexive]
  · rename_i hpad hreflexive
    constructor
    · intro h
      cases h
    · rintro (h | ⟨h, _⟩)
      · exact (hpad h).elim
      · exact (hreflexive h).elim

/-! ## Levels -/

/-- The fields that a struct declares, each with its owner. -/
def StructDef.ownedFields (s : StructDef) : List FlatField :=
  s.fields.map (FlatField.mk s.name)

namespace Flattened

variable {placeholders : List String}

/-- One level adds the fields that it declares, some of them to what is left out. -/
theorem addLevel_eq (flat : Flattened) (level : StructDef) :
    flat.addLevel placeholders level =
      { flat with
        fields := flat.fields ++ level.ownedFields.filter (!·.field.isElided placeholders)
        elided := flat.elided ++ level.ownedFields.filter (·.field.isElided placeholders) } := by
  unfold addLevel StructDef.ownedFields
  induction level.fields generalizing flat with
  | nil => simp
  | cons field rest ih =>
      rw [List.foldl_cons, ih]
      by_cases helided : field.isElided placeholders = true
      · simp [addField, helided]
      · simp [addField, helided]

/-- Several levels add the fields that they declare, one level after the other. -/
theorem foldl_addLevel_eq (flat : Flattened) (levels : List StructDef) :
    levels.foldl (addLevel placeholders) flat =
      { flat with
        fields := flat.fields ++
          (levels.flatMap StructDef.ownedFields).filter (!·.field.isElided placeholders)
        elided := flat.elided ++
          (levels.flatMap StructDef.ownedFields).filter (·.field.isElided placeholders) } := by
  induction levels generalizing flat with
  | nil => simp
  | cons level levels ih =>
      rw [List.foldl_cons, ih, addLevel_eq]
      simp

end Flattened

namespace Tables

variable {t : Tables}

/-- The declared fields of all levels, each with its owner. -/
def declaredFields (t : Tables) (id : t.StructId) : List FlatField :=
  (t.levels id).flatMap StructDef.ownedFields

/-- A flattened struct exposes the declared fields of its levels, unless they are left out. -/
theorem flatten_eq (placeholders : List String) (id : t.StructId) :
    t.flatten placeholders id = {
      fields := (t.declaredFields id).filter (!·.field.isElided placeholders)
      elided := (t.declaredFields id).filter (·.field.isElided placeholders)
      groups := (t.struct id).groups ++ (t.levels id).dropLast.flatMap (·.groups) } := by
  have hancestors : (t.levels id).dropLast = (t.lineage id).tail.reverse.map t.struct := by
    rw [levels, ← List.map_dropLast, List.dropLast_reverse]
  rw [hancestors, List.flatMap_map]
  simp only [flatten, Flattened.foldl_addLevel_eq, List.nil_append, declaredFields]

/-! ## The way down -/

/-- The way from a struct without a parent down to a struct, each step from a parent to a child. -/
structure Descent (t : Tables) (chain : List t.StructId) (id : t.StructId) : Prop where
  root : ∀ first ∈ chain.head?, t.parent? first = none
  steps : chain.IsChain fun parent child => t.Inherits child parent
  last : chain.getLast? = some id

/-- A walk up that ends early ends at a struct without a parent. -/
theorem parent?_getLast?_ancestry {steps : Nat} {s : t.StructId}
    (h : (t.ancestry steps s).length ≤ steps) :
    ∀ root ∈ (t.ancestry steps s).getLast?, t.parent? root = none := by
  induction steps generalizing s with
  | zero => simp [ancestry] at h
  | succ steps ih =>
      cases hparent : t.parent? s with
      | none => simp [ancestry, hparent]
      | some parent =>
          simp only [ancestry, hparent, List.length_cons, Nat.add_le_add_iff_right] at h ⊢
          have hnonempty : t.ancestry steps parent ≠ [] := by
            intro hempty
            have hhead := head?_ancestry steps parent
            simp [hempty] at hhead
          rw [List.getLast?_cons_of_ne_nil hnonempty]
          exact ih h

end Tables

namespace Catalog

variable {c : Catalog} {id parent : c.StructId}

/-- A struct without a parent is its whole lineage. -/
theorem lineage_of_root (h : c.parent? id = none) : c.lineage id = [id] := by
  have hwalk := c.ancestry_eq_lineage id (Nat.le_succ c.structs.length)
  simp only [Tables.ancestry, h] at hwalk
  exact hwalk.symm

/-- A struct comes before the lineage of its parent. -/
theorem lineage_of_parent (h : c.parent? id = some parent) :
    c.lineage id = id :: c.lineage parent := by
  -- the walk from the parent may go one step less far, which makes no difference in a catalog
  have hwalk := c.ancestry_eq_lineage id (Nat.le_succ c.structs.length)
  simp only [Tables.ancestry, h] at hwalk
  exact hwalk.symm

/-- The lineage of a struct is the only walk up from it that ends at a struct without a parent. -/
theorem eq_lineage_of_walk {walk : List c.StructId} (hsteps : walk.IsChain c.Inherits)
    (hstart : walk.head? = some id) (hroot : ∀ root ∈ walk.getLast?, c.parent? root = none) :
    walk = c.lineage id := by
  induction walk generalizing id with
  | nil => cases hstart
  | cons first above ih =>
      cases hstart
      cases above with
      | nil => exact (lineage_of_root (hroot first rfl)).symm
      | cons parent above =>
          obtain ⟨hparent, hsteps⟩ := List.isChain_cons_cons.1 hsteps
          rw [lineage_of_parent hparent, ← ih hsteps rfl]
          exact fun root hlast => hroot root (by rwa [List.getLast?_cons_cons])

/-- There is one way from a struct without a parent down to a struct: its lineage, backwards. -/
theorem descent_iff {chain : List c.StructId} :
    c.Descent chain id ↔ chain = (c.lineage id).reverse := by
  constructor
  · rintro ⟨hroot, hsteps, hlast⟩
    rw [← List.reverse_eq_iff]
    apply eq_lineage_of_walk
    · exact List.isChain_reverse.2 hsteps
    · rw [List.head?_reverse, hlast]
    · rw [List.getLast?_reverse]
      exact hroot
  · rintro rfl
    constructor
    · rw [List.head?_reverse]
      exact Tables.parent?_getLast?_ancestry (c.length_lineage_le id)
    · exact List.isChain_reverse.2 (Tables.isChain_ancestry _ id)
    · rw [List.getLast?_reverse]
      exact Tables.head?_ancestry _ id

/-- A struct is flattened in closed form. There is exactly one way from a struct without a parent
down to it, and the walk up ends there, however far it may go. The fields are those that the structs
on the way declare, in order and with their owners, without padding and without nested sequences of
placeholders; the name of an owner leads back to it. The groups are those of the struct, followed by
those of its ancestors on the way down. -/
theorem flatten_eq_concatenation (c : Catalog) (id : c.StructId) (placeholders : List String) :
    ∃ chain : List c.StructId,
      c.Descent chain id ∧ (∀ other, c.Descent other id → other = chain) ∧
      (∀ steps, c.structs.length ≤ steps → c.ancestry steps id = chain.reverse) ∧
      (c.flatten placeholders id).fields = chain.flatMap (fun owner =>
        ((c.struct owner).fields.filter (!·.isElided placeholders)).map
          (FlatField.mk (c.struct owner).name)) ∧
      (∀ field : FieldDef, field.isElided placeholders = true ↔ field.type = .pad ∨
        field.type = .reflexive ∧ ∃ target ∈ placeholders, field.target = some target) ∧
      (∀ owner, c.structId? (c.struct owner).name = some owner) ∧
      (c.flatten placeholders id).groups = (c.struct id).groups ++
        chain.dropLast.flatMap fun ancestor => (c.struct ancestor).groups := by
  refine ⟨(c.lineage id).reverse, descent_iff.2 rfl, fun other => descent_iff.1, ?_, ?_,
    fun field => FieldDef.isElided_iff, fun owner => c.structId?_eq_some_iff.2 rfl, ?_⟩
  · intro steps hsteps
    rw [List.reverse_reverse, c.ancestry_eq_lineage id hsteps]
  · rw [Tables.flatten_eq, Tables.declaredFields, Tables.levels, List.flatMap_map,
      List.filter_flatMap]
    simp only [StructDef.ownedFields, List.filter_map, Function.comp_def]
  · rw [Tables.flatten_eq, Tables.levels, ← List.map_dropLast, List.flatMap_map]

end Catalog
end TagSchema
