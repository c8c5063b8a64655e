import TagSchema.Catalog.Basic

/-!
# Flattened structs

A struct exposes the fields of its ancestors, from the root down, and then its own. Padding only
exists for layout, and nested sequences of a placeholder struct carry nothing, so both are left out.
Groups start with the struct's own, followed by those of its ancestors from the root down.
-/

namespace TagSchema

/-- A field with the name of the struct that declares it. -/
structure FlatField where
  owner : String
  field : FieldDef
deriving DecidableEq, Repr

/-- The fields that a struct exposes, the fields that are left out, and its groups. -/
structure Flattened where
  fields : List FlatField := []
  elided : List FlatField := []
  groups : List Group := []
deriving DecidableEq, Repr

/-- A field that no generated code sees. -/
def FieldDef.isElided (placeholders : List String) (field : FieldDef) : Bool :=
  match field.type with
  | .pad => true
  | .reflexive => field.target.any placeholders.contains
  | _ => false

namespace Flattened

/-- Adds a field of an owner behind those that are exposed, or behind those that are left out. -/
def addField (placeholders : List String) (owner : String) (flat : Flattened) (field : FieldDef) :
    Flattened :=
  if field.isElided placeholders then
    { flat with elided := flat.elided ++ [⟨owner, field⟩] }
  else
    { flat with fields := flat.fields ++ [⟨owner, field⟩] }

/-- Adds the fields that a struct declares, in order. -/
def addLevel (placeholders : List String) (flat : Flattened) (level : StructDef) : Flattened :=
  level.fields.foldl (addField placeholders level.name) flat

end Flattened

namespace Tables

variable (t : Tables)

/-- The structs that a struct is made of, from the root of its lineage down to itself. -/
def levels (id : t.StructId) : List StructDef :=
  (t.lineage id).reverse.map t.struct

/-- The struct as it is exposed: the fields of one level after the other, then the groups of the
struct and of its ancestors. -/
def flatten (placeholders : List String) (id : t.StructId) : Flattened :=
  let exposed := (t.levels id).foldl (Flattened.addLevel placeholders) {}
  let inherited := (t.lineage id).tail.reverse.flatMap fun ancestor => (t.struct ancestor).groups
  { exposed with groups := (t.struct id).groups ++ inherited }

end Tables
end TagSchema
