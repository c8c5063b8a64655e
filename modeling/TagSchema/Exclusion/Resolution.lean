import TagSchema.Exclusion.Basic
import TagSchema.FieldType.Resolution

/-!
# Resolution of exclusions

A field that is shared through inheritance can disallow different options in different structs, so
exclusions are resolved for the struct that the field ends up in: an entry counts when it applies to
that struct.
-/

namespace TagSchema

/-- The entries of a field that apply to a struct. -/
def FieldDef.applicable (field : FieldDef) (struct : String) : List ExcludeEntry :=
  field.exclude.filter (·.appliesTo struct)

/-- The options of an enum that a field may not hold in a struct. -/
def EnumDef.excludedIn (e : EnumDef) (struct : String) (field : FieldDef) :
    Except SchemaError (List Nat) := do
  let positions ← (field.applicable struct).mapM fun entry =>
    match e.position? entry.option with
    | some position => Except.ok position
    | none => .error (.unknownOption struct field.memberName e.name entry.option)
  return sortPositions positions

/-- The bits of a bitfield that a field may not hold in a struct. -/
def BitfieldDef.excludedIn (b : BitfieldDef) (struct : String) (field : FieldDef) :
    Except SchemaError Mask := do
  let positions ← (field.applicable struct).mapM fun entry =>
    match b.position? entry.option with
    | some position => Except.ok position
    | none => .error (.unknownBit (struct ++ "." ++ field.memberName) b.name entry.option)
  return Mask.ofPositions positions

/-- A resolved field with what it may not hold. -/
structure AnnotatedField extends ResolvedField where
  exclusion : Option Exclusion
deriving DecidableEq, Repr

namespace ResolvedField

/-- What a field may not hold in a struct; only enums and bitfields have exclusions. -/
def exclusionIn (field : ResolvedField) (struct : String) :
    Except SchemaError (Option Exclusion) :=
  match field.type.enum? with
  | some e => do return some (.options (← e.excludedIn struct field.definition))
  | none =>
    match field.type.bitfield? with
    | some b => do return some (.mask (← b.excludedIn struct field.definition))
    | none => .ok none

/-- The field with what it may not hold in a struct. -/
def annotate (struct : String) (field : ResolvedField) : Except SchemaError AnnotatedField := do
  return { field with exclusion := ← field.exclusionIn struct }

/-- The field lists exclusions and is neither an enum nor a bitfield. -/
def ignoresExclusions (field : ResolvedField) : Bool :=
  field.type.enum?.isNone && field.type.bitfield?.isNone && !field.definition.exclude.isEmpty

end ResolvedField

namespace AnnotatedField

/-- The options that the field may not hold. -/
def excludedOptions (field : AnnotatedField) : List Nat :=
  (field.exclusion.bind Exclusion.options?).getD []

/-- The bits that the field may not hold. -/
def excludedMask (field : AnnotatedField) : Mask :=
  (field.exclusion.bind Exclusion.mask?).getD 0

/-- The bits of the field that only cache data carries. -/
def cacheOnlyMask (field : AnnotatedField) : Mask :=
  match field.type.bitfield? with
  | some b => b.cacheOnlyMask
  | none => 0

end AnnotatedField
end TagSchema
