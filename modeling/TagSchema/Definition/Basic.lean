import TagSchema.Definition.DeclaredType
import TagSchema.Definition.Hook
import TagSchema.Number.Binary64

/-!
# Definitions

The entries of a definition document: enums, bitfields and structs with their fields, as they are
written down and before anything is checked.
-/

namespace TagSchema

/-! ## Enums and bitfields -/

/-- An enum; the position of an option is its value. -/
structure EnumDef where
  name : String
  options : List String
deriving DecidableEq, Repr

/-- The first position of an option. -/
def EnumDef.position? (e : EnumDef) (option : String) : Option Nat :=
  e.options.findIdx? (· == option)

/-- A set of bits. -/
abbrev Mask := BitVec 64

/-- The mask with one bit set. -/
def Mask.bit (position : Nat) : Mask :=
  BitVec.twoPow 64 position

/-- The mask with the bits at the given positions set. -/
def Mask.ofPositions (positions : List Nat) : Mask :=
  positions.foldl (fun mask position => mask ||| Mask.bit position) 0

/-- A set of named bits; the position of a name is its bit. -/
structure BitfieldDef where
  name : String
  fields : List String
  width : Nat := 32
  cacheOnly : List String := []
deriving DecidableEq, Repr

namespace BitfieldDef

/-- The first position of a bit name. -/
def position? (b : BitfieldDef) (bit : String) : Option Nat :=
  b.fields.findIdx? (· == bit)

/-- The mask with every declared bit set. -/
def validMask (b : BitfieldDef) : Mask :=
  let count := b.fields.length
  if count = 0 then 0
  else if 64 ≤ count then BitVec.allOnes 64
  else Mask.bit count - 1

/-- The mask of the bits that only cache data carries. -/
def cacheOnlyMask (b : BitfieldDef) : Mask :=
  Mask.ofPositions (b.cacheOnly.filterMap b.position?)

end BitfieldDef

/-! ## Structs -/

/-- A named run of fields in an editor, given by the member it starts at. -/
structure Group where
  name : String
  first : String
  description : Option String := none
deriving DecidableEq, Repr

/-- An option or a bit that a field may not hold, in some structs or in all. -/
structure ExcludeEntry where
  option : String
  scope : Option (List String) := none
deriving DecidableEq, Repr

/-- An entry applies to a struct that its scope lists; without a scope it applies to every struct. -/
def ExcludeEntry.appliesTo (entry : ExcludeEntry) (struct : String) : Bool :=
  match entry.scope with
  | none => true
  | some scope => scope.contains struct

/-- An explicit default value. -/
inductive DefaultValue where
  | scalar (value : Binary64)
  | vector (values : List Binary64)
deriving DecidableEq, Repr

/-- A field of a struct as it is declared. -/
structure FieldDef where
  memberName : String := ""
  type : DeclaredType
  target : Option String := none
  size : Option Nat := none
  flagged : Bool := false
  compound : Bool := false
  bounds : Bool := false
  count : Nat := 1
  exclude : List ExcludeEntry := []
  initial : Option DefaultValue := none
  minimum : Option Binary64 := none
  maximum : Option Binary64 := none
  classes : List String := []
  nonNull : Bool := false
  indexOf : Option String := none
  hidden : Bool := false
  volatile : Bool := false
  normalize : Bool := false
  comment : Option String := none
deriving DecidableEq, Repr

namespace FieldDef

/-- A run of bytes without a meaning. -/
def padding (size : Nat) : FieldDef :=
  { type := .pad, size := some size }

/-- A field that only takes room. -/
def isPad (field : FieldDef) : Bool :=
  field.type = .pad

end FieldDef

/-- A struct as it is declared. -/
structure StructDef where
  name : String
  inherits : Option String := none
  fields : List FieldDef := []
  groups : List Group := []
  capabilities : Capabilities := {}
  title : Option String := none
deriving DecidableEq, Repr

/-- One entry of a definition document. -/
inductive Definition where
  | enumeration (e : EnumDef)
  | bitfield (b : BitfieldDef)
  | struct (s : StructDef)
deriving DecidableEq, Repr

end TagSchema
