import TagSchema.Catalog.Flattened
import TagSchema.FieldType.Initial
import TagSchema.Text.Identifier

/-!
# Resolution of fields

A declared field becomes a resolved one: its type is looked up and wrapped, its name becomes an
identifier, and its default is checked. Modifiers apply in a fixed order: flag, native byte order,
bounds, array. A dependency takes no modifier but the array.
-/

namespace TagSchema

/-- The identifier of a name, or the fault of having none. -/
def requireIdentifier (name : String) : Except SchemaError String :=
  match Text.identifier? name with
  | some ident => .ok ident
  | none => .error (.invalidIdentifier name)

/-- A field with everything that generated code needs to know of it. -/
structure ResolvedField where
  owner : String
  definition : FieldDef
  ident : String
  type : FieldType
  initial : Option InitialValue
deriving DecidableEq, Repr

/-- The member name of a resolved field. -/
def ResolvedField.name (field : ResolvedField) : String :=
  field.definition.memberName

namespace FieldDef

/-- A dependency whose modifiers mean nothing. -/
def ignoresModifiers (field : FieldDef) : Bool :=
  field.type = .dependency && (field.flagged || field.compound || field.bounds)

/-- A base type inside the wrappers that a field asks for. -/
def wrap (field : FieldDef) (base : FieldType) : FieldType :=
  let flagged := if field.flagged then .flagged base else base
  let ordered := if field.compound then flagged.inNativeOrder else flagged
  let bounded := if field.bounds then .bounds ordered else ordered
  bounded.repeated field.count

/-- The initial value of a field: its default if that fits, the null index for an index without a
default. -/
def resolveInitial (owner : String) (field : FieldDef) (type : FieldType) :
    Except SchemaError (Option InitialValue) :=
  match field.initial with
  | some value =>
    if type.fits value then .ok (some (.explicit value))
    else .error (.invalidDefault owner field.memberName value.text type.spelling)
  | none => .ok (if type.isIndex then some .nullIndex else none)

end FieldDef

namespace Tables

variable (t : Tables) (registry : Registry)

/-- What a type name stands for: a definition of the tables, or else a type of the registry. -/
def namedKind? (name : String) : Option NamedKind :=
  match t.typeNamed? name with
  | some (.enumeration e) => some (.enumeration e)
  | some (.bitfield b) => some (.bitfield b)
  | some (.struct _) => some (.struct name)
  | none => (registry.get? name).map .engine

/-- The type of a field that the struct `owner` declares. -/
def resolveType (owner : String) (field : FieldDef) : Except SchemaError FieldType :=
  let unknown (type : String) : SchemaError := .unknownType owner field.memberName type
  match field.type with
  | .int bits signed => .ok (field.wrap (.int bits signed))
  | .float => .ok (field.wrap .float)
  | .dependency => .ok (FieldType.dependency.repeated field.count)
  | .reflexive =>
    match field.target with
    | none => .error (.missingTarget owner field.memberName)
    | some target =>
      match t.typeNamed? target with
      | some (.struct _) => do
        return field.wrap (.reflexive target (← requireIdentifier target))
      | _ => .error (unknown target)
  | .data => .ok (field.wrap .data)
  | .pad => .error (unknown "pad")
  | .named name =>
    match t.namedKind? registry name with
    | some kind => do return field.wrap (.named (← requireIdentifier name) kind false)
    | none => .error (unknown name)

/-- Resolves a field: its type, then its identifier, then its default. -/
def resolveField (flat : FlatField) : Except SchemaError ResolvedField := do
  let type ← t.resolveType registry flat.owner flat.field
  let ident ← requireIdentifier flat.field.memberName
  let initial ← flat.field.resolveInitial flat.owner type
  return ⟨flat.owner, flat.field, ident, type, initial⟩

/-- Resolves fields in order; the first fault stops. -/
def resolveFields (fields : List FlatField) : Except SchemaError (List ResolvedField) :=
  fields.mapM (t.resolveField registry)

end Tables
end TagSchema
