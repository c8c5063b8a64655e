import TagSchema.Catalog.Tables

/-!
# Catalogs

A catalog is a set of tables without a fault: names are distinct, bitfields fit their width, every
parent is a struct, and no struct is its own ancestor. The checks are made in this order and the
first fault is the one that is reported.
-/

namespace TagSchema

namespace Tables

/-! ## Distinct names -/

/-- Every name with the kind of its definition, kind by kind. -/
def names (t : Tables) : List (DefinitionKind × String) :=
  t.enums.map (fun e => (.enumeration, e.name)) ++
    t.bitfields.map (fun b => (.bitfield, b.name)) ++
    t.structs.map (fun s => (.struct, s.name))

/-- The first entry whose name was seen before. -/
def repeatedName? (seen : List String) :
    List (DefinitionKind × String) → Option (DefinitionKind × String)
  | [] => none
  | (kind, name) :: rest =>
    if seen.contains name then some (kind, name) else repeatedName? (name :: seen) rest

/-- A name that is defined twice. -/
def duplicateFault? (t : Tables) : Option SchemaError :=
  (repeatedName? [] t.names).map fun (kind, name) => .duplicate kind name

/-! ## Bitfields -/

/-- Widths that a bitfield may have. -/
def bitfieldWidths : List Nat := [8, 16, 32, 64]

/-- A width that no bitfield may have, or more bits than the width holds. -/
def widthFault? (b : BitfieldDef) : Option SchemaError :=
  if !bitfieldWidths.contains b.width || b.width < b.fields.length then
    some (.tooWide b.name b.fields.length b.width)
  else
    none

/-- A cache-only bit that is not declared. -/
def cacheOnlyFault? (b : BitfieldDef) : Option SchemaError :=
  (b.cacheOnly.find? fun bit => (b.position? bit).isNone).map fun bit =>
    .unknownBit (b.name ++ ".cache_only") b.name bit

/-- The first fault of a bitfield. -/
def bitfieldFault? (t : Tables) : Option SchemaError :=
  t.bitfields.findSome? fun b => (widthFault? b).or (cacheOnlyFault? b)

/-! ## Parents -/

/-- A parent that is not a struct of the tables. -/
def parentFault? (t : Tables) (s : StructDef) : Option SchemaError :=
  match s.inherits with
  | none => none
  | some parent =>
    match t.typeNamed? parent with
    | some (.struct _) => none
    | _ => some (.unknownParent s.name parent)

/-- The first fault of a parent. -/
def orphanFault? (t : Tables) : Option SchemaError :=
  t.structs.findSome? t.parentFault?

/-! ## Cycles of inheritance -/

/-- The structs that a chain does not hold. -/
def outside (t : Tables) (chain : List t.StructId) : List t.StructId :=
  t.structIds.filter (!chain.contains ·)

theorem length_outside_lt {t : Tables} {chain : List t.StructId} {s : t.StructId} (h : s ∉ chain) :
    (t.outside (chain ++ [s])).length < (t.outside chain).length := by
  have hrest : t.outside (chain ++ [s]) = (t.outside chain).filter (· ≠ s) := by
    simp only [outside, List.filter_filter]
    congr 1
    funext other
    by_cases hother : other = s <;> simp [hother]
  have hmem : s ∈ t.outside chain := by
    simp [outside, structIds, h]
  rw [hrest]
  exact List.length_filter_lt_length_iff_exists.2 ⟨s, hmem, by simp⟩

/-- Walks up behind a chain of structs. It ends where there is no parent; a struct of the chain that
comes again closes a loop, which leaves out what comes before that struct in the chain. -/
@[semireducible]
def closeLoop? (t : Tables) (chain : List t.StructId) (next? : Option t.StructId) :
    Option (List t.StructId) :=
  match next? with
  | none => none
  | some next =>
    if _again : next ∈ chain then
      some (chain.dropWhile (· ≠ next) ++ [next])
    else
      t.closeLoop? (chain ++ [next]) (t.parent? next)
termination_by (t.outside chain).length
decreasing_by exact length_outside_lt _again

/-- The loop that the walk up from a struct runs into. -/
def loopFrom? (t : Tables) (id : t.StructId) : Option (List t.StructId) :=
  t.closeLoop? [id] (t.parent? id)

/-- A struct that is its own ancestor, with the way back to it. -/
def cycleFault? (t : Tables) : Option SchemaError :=
  (t.structIds.findSome? t.loopFrom?).map fun loop =>
    .inheritanceCycle (loop.map fun id => (t.struct id).name)

/-- The first fault of the tables. -/
def fault? (t : Tables) : Option SchemaError :=
  t.duplicateFault?.or (t.bitfieldFault?.or (t.orphanFault?.or t.cycleFault?))

end Tables

/-- Tables without a fault. -/
structure Catalog extends Tables where
  faultless : toTables.fault? = none

namespace Catalog

/-- Accepts tables without a fault. -/
def ofTables (t : Tables) : Except SchemaError Catalog :=
  match h : t.fault? with
  | none => .ok ⟨t, h⟩
  | some fault => .error fault

/-- Accepts definitions whose tables have no fault. -/
def ofDefinitions (definitions : List Definition) : Except SchemaError Catalog :=
  ofTables (.ofDefinitions definitions)

/-- The catalog without definitions. -/
def empty : Catalog :=
  ⟨{}, by decide⟩

/-- The handle of a struct that has to be there. -/
def requireStruct (c : Catalog) (name : String) : Except SchemaError c.StructId :=
  match c.typeNamed? name with
  | some (.struct id) => .ok id
  | _ => .error (.unknownStruct name)

end Catalog
end TagSchema
