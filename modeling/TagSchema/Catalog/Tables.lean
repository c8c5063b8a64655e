import TagSchema.Definition.Basic
import TagSchema.Fault

/-!
# Tables of definitions

The enums, bitfields and structs of a set of definitions, each in the order of declaration, with the
look-up by name and the parent relation between structs. Nothing is checked yet.
-/

namespace TagSchema

/-- Definitions sorted by kind. -/
structure Tables where
  enums : List EnumDef := []
  bitfields : List BitfieldDef := []
  structs : List StructDef := []
deriving DecidableEq, Repr

/-- What a type name refers to. -/
inductive TypeRef (structs : Nat) where
  | enumeration (e : EnumDef)
  | bitfield (b : BitfieldDef)
  | struct (id : Fin structs)

namespace Tables

/-- The tables of a list of definitions. -/
def ofDefinitions (definitions : List Definition) : Tables where
  enums := definitions.filterMap fun | .enumeration e => some e | _ => none
  bitfields := definitions.filterMap fun | .bitfield b => some b | _ => none
  structs := definitions.filterMap fun | .struct s => some s | _ => none

/-- Handles of the structs of some tables: their positions. -/
abbrev StructId (t : Tables) := Fin t.structs.length

variable (t : Tables)

/-- The handles of all structs, in declaration order. -/
def structIds : List t.StructId :=
  List.finRange t.structs.length

/-- The struct with a handle. -/
def struct (id : t.StructId) : StructDef :=
  t.structs.get id

/-- The handle of the struct with a name. -/
def structId? (name : String) : Option t.StructId :=
  t.structs.findFinIdx? (·.name == name)

/-- What a name refers to. -/
def typeNamed? (name : String) : Option (TypeRef t.structs.length) :=
  match t.enums.find? (·.name == name) with
  | some e => some (.enumeration e)
  | none =>
    match t.bitfields.find? (·.name == name) with
    | some b => some (.bitfield b)
    | none => (t.structId? name).map .struct

/-- The struct that a struct inherits from. -/
def parent? (id : t.StructId) : Option t.StructId :=
  (t.struct id).inherits.bind t.structId?

/-! ## Lineage -/

/-- A struct and its ancestors, the nearest first, at most `steps` of them. -/
def ancestry : Nat → t.StructId → List t.StructId
  | 0, id => [id]
  | steps + 1, id =>
    match t.parent? id with
    | none => [id]
    | some parent => id :: ancestry steps parent

/-- A struct and all its ancestors, the nearest first. Without a cycle a lineage has at most as many
members as there are structs; on a cycle one more member is enough to come back. -/
def lineage (id : t.StructId) : List t.StructId :=
  t.ancestry t.structs.length id

end Tables
end TagSchema
