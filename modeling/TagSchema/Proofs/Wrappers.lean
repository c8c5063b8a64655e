import Mathlib.Data.List.Nodup
import TagSchema.Emission.Validation
import TagSchema.Proofs.AnnotatedFields

/-!
# Wrappers

A resolved type is a base inside the wrappers that the field asks for, of which only the outermost
is an array. Generated code reaches the values inside the others by expressions: a pair of bounds is
entered at either end, a flag at its number. A path is a list of these accesses, and the paths of a
type lead to all values that one element of it holds.

Main results:

- `Tables.resolveType_cases`: what a field resolves to, by its declared type.
- `Tables.exists_wrap_of_resolveType`: the wrappers of a resolved type.
- `Tables.arrayFree_element_of_resolveType`: the element of a resolved type has no array in it.
- `FieldType.mem_paths_iff`, `FieldType.nodup_paths`: the paths of a type, each once.
- `Access.reached_injective`: different paths are spelled differently.
- `Emission.Validation.indexPlaces_eq`: the index values of an element are reached along its paths.
-/

namespace TagSchema

/-! ## Resolved types -/

namespace FieldType

/-- The type has no wrapper around it. -/
def isBare : FieldType → Bool
  | array _ _ => false
  | bounds _ => false
  | flagged _ => false
  | _ => true

/-- There is no array in the type. -/
def arrayFree : FieldType → Bool
  | array _ _ => false
  | bounds inner => inner.arrayFree
  | flagged inner => inner.arrayFree
  | _ => true

/-- A type without wrappers has no array in it. -/
theorem arrayFree_of_isBare {type : FieldType} (h : type.isBare = true) :
    type.arrayFree = true := by
  cases type with
  | array => cases h
  | bounds => cases h
  | flagged => cases h
  | _ => rfl

theorem arrayFree_inNativeOrder (type : FieldType) :
    type.inNativeOrder.arrayFree = type.arrayFree := by
  induction type with
  | flagged inner ih => exact ih
  | _ => rfl

theorem isReflexive_inNativeOrder (type : FieldType) :
    type.inNativeOrder.isReflexive = type.isReflexive := by
  induction type with
  | flagged inner ih => exact ih
  | _ => rfl

theorem isReflexive_repeated (type : FieldType) (count : Nat) :
    (type.repeated count).isReflexive = type.isReflexive := by
  unfold repeated
  split <;> rfl

/-- What behaves like a scalar or an engine type is no nested sequence. -/
theorem isReflexive_of_valueClass? {type : FieldType} {valueClass : ValueClass}
    (h : type.valueClass? = some valueClass) : type.isReflexive = false := by
  rw [valueClass?] at h
  rw [isReflexive, reflexive?]
  cases hbase : type.base with
  | reflexive target ident =>
      rw [hbase] at h
      cases h
  | _ => rfl

theorem base_element (type : FieldType) : type.element.base = type.base := by
  cases type <;> rfl

/-- The element of an array is what is repeated. -/
theorem element_repeated {type : FieldType} (h : type.arrayFree = true) (count : Nat) :
    (type.repeated count).element = type := by
  unfold repeated
  split
  · rfl
  · cases type with
    | array => cases h
    | _ => rfl

end FieldType

namespace FieldDef

variable (field : FieldDef) {base : FieldType}

/-- The type of one element of a field, with all wrappers but the array. -/
def elementOf (base : FieldType) : FieldType :=
  let flagged := if field.flagged then .flagged base else base
  let ordered := if field.compound then flagged.inNativeOrder else flagged
  if field.bounds then .bounds ordered else ordered

/-- A field wraps its base as an element and then repeats it. -/
theorem wrap_eq (base : FieldType) :
    field.wrap base = (field.elementOf base).repeated field.count :=
  rfl

/-- The modifiers of an element bring no array into it. -/
theorem arrayFree_elementOf (h : base.arrayFree = true) :
    (field.elementOf base).arrayFree = true := by
  unfold elementOf
  cases field.flagged <;> cases field.compound <;> cases field.bounds <;>
    simp [FieldType.arrayFree, FieldType.arrayFree_inNativeOrder, h]

/-- Of the wrappers of a field only the outermost is an array. -/
theorem arrayFree_element_wrap (h : base.isBare = true) :
    (field.wrap base).element.arrayFree = true := by
  have hfree := field.arrayFree_elementOf (FieldType.arrayFree_of_isBare h)
  rwa [wrap_eq, FieldType.element_repeated hfree]

/-- Wrappers leave a nested sequence what it is. -/
theorem isReflexive_wrap (base : FieldType) : (field.wrap base).isReflexive = base.isReflexive := by
  have hflagged : FieldType.isReflexive (.flagged base) = base.isReflexive := rfl
  have hbounds : ∀ type, FieldType.isReflexive (.bounds type) = type.isReflexive := fun _ => rfl
  rw [wrap_eq, FieldType.isReflexive_repeated]
  unfold elementOf
  cases field.flagged <;> cases field.compound <;> cases field.bounds <;>
    simp [FieldType.isReflexive_inNativeOrder, hflagged, hbounds]

/-- A nested sequence stands in its field as it is exactly if the field asks for no wrapper. -/
theorem wrap_reflexive_iff (target ident : String) :
    (∃ struct spelling, field.wrap (.reflexive target ident) = .reflexive struct spelling) ↔
      field.count ≤ 1 ∧ field.bounds = false ∧ field.flagged = false := by
  rw [wrap_eq]
  unfold elementOf FieldType.repeated
  by_cases hcount : field.count ≤ 1
  · have hone : ¬ 1 < field.count := by omega
    cases field.flagged <;> cases field.compound <;> cases field.bounds <;>
      simp [hcount, hone, FieldType.inNativeOrder]
  · have hmore : 1 < field.count := by omega
    simp [hcount, hmore]

end FieldDef

namespace Tables

variable {t : Tables} {registry : Registry} {owner : String} {field : FieldDef} {type : FieldType}

/-- What a field resolves to, by its declared type. -/
theorem resolveType_cases (h : t.resolveType registry owner field = .ok type) :
    (field.type = .dependency ∧ type = FieldType.dependency.repeated field.count) ∨
    (∃ bits signed, field.type = .int bits signed ∧ type = field.wrap (.int bits signed)) ∨
    (field.type = .float ∧ type = field.wrap .float) ∨
    (field.type = .data ∧ type = field.wrap .data) ∨
    (∃ target id ident, field.type = .reflexive ∧ field.target = some target ∧
      t.typeNamed? target = some (.struct id) ∧ requireIdentifier target = .ok ident ∧
      type = field.wrap (.reflexive target ident)) ∨
    ∃ name kind ident, field.type = .named name ∧ t.namedKind? registry name = some kind ∧
      requireIdentifier name = .ok ident ∧ type = field.wrap (.named ident kind false) := by
  cases htype : field.type with
  | int bits signed =>
      simp only [resolveType, htype, Except.ok.injEq] at h
      exact Or.inr (Or.inl ⟨bits, signed, rfl, h.symm⟩)
  | float =>
      simp only [resolveType, htype, Except.ok.injEq] at h
      exact Or.inr (Or.inr (Or.inl ⟨rfl, h.symm⟩))
  | dependency =>
      simp only [resolveType, htype, Except.ok.injEq] at h
      exact Or.inl ⟨rfl, h.symm⟩
  | reflexive =>
      simp only [resolveType, htype] at h
      split at h
      · cases h
      · rename_i target htarget
        split at h
        · rename_i id hid
          rcases Stepwise.bind_eq_ok_iff.1 h with ⟨ident, hident, hwrap⟩
          exact Or.inr (Or.inr (Or.inr (Or.inr (Or.inl
            ⟨target, id, ident, rfl, htarget, hid, hident, (Except.ok.inj hwrap).symm⟩))))
        · cases h
  | data =>
      simp only [resolveType, htype, Except.ok.injEq] at h
      exact Or.inr (Or.inr (Or.inr (Or.inl ⟨rfl, h.symm⟩)))
  | pad =>
      simp only [resolveType, htype] at h
      cases h
  | named name =>
      simp only [resolveType, htype] at h
      split at h
      · rename_i kind hkind
        rcases Stepwise.bind_eq_ok_iff.1 h with ⟨ident, hident, hwrap⟩
        exact Or.inr (Or.inr (Or.inr (Or.inr (Or.inr
          ⟨name, kind, ident, rfl, hkind, hident, (Except.ok.inj hwrap).symm⟩))))
      · cases h

/-- A dependency is at most repeated; any other type is a base inside the wrappers that the field
asks for. -/
theorem exists_wrap_of_resolveType (h : t.resolveType registry owner field = .ok type) :
    (field.type = .dependency ∧ type = FieldType.dependency.repeated field.count) ∨
      field.type ≠ .dependency ∧
        ∃ base : FieldType, base.isBare = true ∧ type = field.wrap base := by
  rcases resolveType_cases h with hdependency | ⟨_, _, htype, hwrap⟩ | ⟨htype, hwrap⟩ |
    ⟨htype, hwrap⟩ | ⟨_, _, _, htype, _, _, _, hwrap⟩ | ⟨_, _, _, htype, _, _, hwrap⟩
  · exact Or.inl hdependency
  all_goals
    rw [htype]
    exact Or.inr ⟨DeclaredType.noConfusion, _, rfl, hwrap⟩

/-- A resolved type has an array on the outside only. -/
theorem arrayFree_element_of_resolveType (h : t.resolveType registry owner field = .ok type) :
    type.element.arrayFree = true := by
  rcases exists_wrap_of_resolveType h with ⟨_, rfl⟩ | ⟨_, base, hbare, rfl⟩
  · rw [FieldType.element_repeated rfl]
    rfl
  · exact field.arrayFree_element_wrap hbare

/-- A field with more than one value has an array of that many. -/
theorem arrayLength?_of_resolveType (h : t.resolveType registry owner field = .ok type)
    (hcount : 1 < field.count) : type.arrayLength? = some field.count := by
  have hrepeated : ∀ inner : FieldType,
      (inner.repeated field.count).arrayLength? = some field.count := by
    intro inner
    rw [FieldType.repeated, if_pos hcount]
    rfl
  rcases exists_wrap_of_resolveType h with ⟨_, rfl⟩ | ⟨_, base, _, rfl⟩
  · exact hrepeated _
  · exact hrepeated _

/-- A field that holds nested sequences holds one as it is exactly if it asks for no wrapper. -/
theorem reflexive_iff_of_resolveType (h : t.resolveType registry owner field = .ok type)
    (hreflexive : type.isReflexive = true) :
    (∃ struct spelling, type = .reflexive struct spelling) ↔
      field.count ≤ 1 ∧ field.bounds = false ∧ field.flagged = false := by
  rcases exists_wrap_of_resolveType h with ⟨_, rfl⟩ | ⟨_, base, hbare, rfl⟩
  · rw [FieldType.isReflexive_repeated] at hreflexive
    cases hreflexive
  · rw [field.isReflexive_wrap] at hreflexive
    cases base with
    | reflexive target ident => exact field.wrap_reflexive_iff target ident
    | array => cases hbare
    | bounds => cases hbare
    | flagged => cases hbare
    | _ => cases hreflexive

end Tables

/-! ## Paths -/

/-- A way into a wrapper. -/
inductive Access where
  | low
  | high
  | number
deriving DecidableEq, Repr

namespace Access

/-- How an access is spelled. -/
def text : Access → String
  | low => ".from"
  | high => ".to"
  | number => ".get()"

/-- What is reached from a place along a path. -/
def reached (place : String) (path : List Access) : String :=
  place ++ String.join (path.map text)

theorem reached_nil (place : String) : reached place [] = place :=
  String.append_empty

/-- A longer path is followed access by access. -/
theorem reached_cons (place : String) (access : Access) (path : List Access) :
    reached place (access :: path) = reached (place ++ access.text) path := by
  rw [reached, reached, List.map_cons, String.join_cons, String.append_assoc]

/-- Accesses are told apart by what follows the point. -/
theorem text_append_inj {access other : Access} {rest more : String}
    (h : access.text ++ rest = other.text ++ more) : access = other ∧ rest = more := by
  cases access <;> cases other <;> simp [text, ← String.toList_inj] at h ⊢ <;> exact h

/-- Different paths are spelled differently. -/
theorem reached_injective (place : String) : Function.Injective (reached place) := by
  intro path other h
  rw [reached, reached, String.append_right_inj] at h
  induction path generalizing other with
  | nil =>
      cases other with
      | nil => rfl
      | cons access other =>
          rw [List.map_cons, String.join_cons, ← String.toList_inj] at h
          cases access <;> simp [text] at h
  | cons access path ih =>
      cases other with
      | nil =>
          rw [List.map_cons, String.join_cons, ← String.toList_inj] at h
          cases access <;> simp [text] at h
      | cons access' other =>
          rw [List.map_cons, List.map_cons, String.join_cons, String.join_cons] at h
          rcases text_append_inj h with ⟨rfl, hrest⟩
          rw [ih hrest]

end Access

namespace FieldType

/-- A path leads through the wrappers of a type to a value without wrappers. -/
inductive Reaches : FieldType → List Access → Prop where
  | here {type : FieldType} (hbare : type.isBare = true) : Reaches type []
  | low {inner : FieldType} {path : List Access} (h : Reaches inner path) :
      Reaches (.bounds inner) (.low :: path)
  | high {inner : FieldType} {path : List Access} (h : Reaches inner path) :
      Reaches (.bounds inner) (.high :: path)
  | number {inner : FieldType} {path : List Access} (h : Reaches inner path) :
      Reaches (.flagged inner) (.number :: path)

/-- The paths of a type, in the order in which code takes them. -/
def paths : FieldType → List (List Access)
  | array _ _ => []
  | bounds inner => inner.paths.map (.low :: ·) ++ inner.paths.map (.high :: ·)
  | flagged inner => inner.paths.map (.number :: ·)
  | _ => [[]]

/-- The paths that are listed are those that reach a base. -/
theorem mem_paths_iff {type : FieldType} {path : List Access} :
    path ∈ type.paths ↔ Reaches type path := by
  induction type generalizing path with
  | array inner length ih =>
      constructor
      · intro h
        cases h
      · intro h
        cases h with
        | here hbare => cases hbare
  | bounds inner ih =>
      rw [paths, List.mem_append, List.mem_map, List.mem_map]
      constructor
      · rintro (⟨rest, hrest, rfl⟩ | ⟨rest, hrest, rfl⟩)
        · exact .low (ih.1 hrest)
        · exact .high (ih.1 hrest)
      · intro h
        cases h with
        | here hbare => cases hbare
        | low hrest => exact Or.inl ⟨_, ih.2 hrest, rfl⟩
        | high hrest => exact Or.inr ⟨_, ih.2 hrest, rfl⟩
  | flagged inner ih =>
      rw [paths, List.mem_map]
      constructor
      · rintro ⟨rest, hrest, rfl⟩
        exact .number (ih.1 hrest)
      · intro h
        cases h with
        | here hbare => cases hbare
        | number hrest => exact ⟨_, ih.2 hrest, rfl⟩
  | _ =>
      constructor
      · intro h
        rw [List.mem_singleton.1 h]
        exact .here rfl
      · intro h
        cases h
        exact List.mem_singleton_self []

/-- No path is listed twice. -/
theorem nodup_paths (type : FieldType) : type.paths.Nodup := by
  induction type with
  | array inner length ih => exact List.nodup_nil
  | bounds inner ih =>
      refine (ih.map List.cons_injective).append (ih.map List.cons_injective) ?_
      intro path hlow hhigh
      rcases List.mem_map.1 hlow with ⟨rest, _, rfl⟩
      rcases List.mem_map.1 hhigh with ⟨other, _, hother⟩
      cases hother
  | flagged inner ih => exact ih.map List.cons_injective
  | _ => exact List.nodup_singleton []

end FieldType

namespace Emission
namespace Validation

/-- The index values of an element are reached along its paths. -/
theorem indexPlaces_eq {type : FieldType} (h : type.arrayFree = true) (place : String) :
    indexPlaces type place = type.paths.map (Access.reached place) := by
  induction type generalizing place with
  | array inner length ih => cases h
  | bounds inner ih =>
      rw [indexPlaces, ih h, ih h, FieldType.paths, List.map_append, List.map_map, List.map_map]
      simp only [Function.comp_def, Access.reached_cons]
      rfl
  | flagged inner ih =>
      rw [indexPlaces, ih h, FieldType.paths, List.map_map]
      simp only [Function.comp_def, Access.reached_cons]
      rfl
  | _ => exact congrArg (fun reached => [reached]) (Access.reached_nil place).symm

end Validation
end Emission
end TagSchema
