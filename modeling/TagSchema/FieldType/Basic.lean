import TagSchema.Definition.Basic
import TagSchema.Registry

/-!
# Field types

The type of a field in the generated code: a base type inside wrappers. The wrappers are the array,
the pair of bounds and the flag that tells an unset value from zero.
-/

namespace TagSchema

/-- What a named base type refers to. -/
inductive NamedKind where
  | enumeration (e : EnumDef)
  | bitfield (b : BitfieldDef)
  | struct (name : String)
  | engine (valueClass : ValueClass)
deriving DecidableEq, Repr

/-- The type of a field in the generated code. -/
inductive FieldType where
  | int (bits : Nat) (signed : Bool)
  | float
  | dependency
  | reflexive (target ident : String)
  | data
  | named (ident : String) (kind : NamedKind) (native : Bool)
  | flagged (inner : FieldType)
  | bounds (inner : FieldType)
  | array (inner : FieldType) (length : Nat)
deriving DecidableEq, Repr

namespace FieldType

/-- The type as the generated code spells it. -/
def spelling : FieldType → String
  | int bits signed => (if signed then "i" else "u") ++ toString bits
  | float => "f32"
  | dependency => "Dependency"
  | reflexive _ ident => "Vec<" ++ ident ++ ">"
  | data => "Vec<u8>"
  | named ident _ native => "hek::" ++ ident ++ (if native then "<hek::NativeEndian>" else "")
  | flagged inner => "hek::FlaggedInt<" ++ inner.spelling ++ ">"
  | bounds inner => "hek::Bounds<" ++ inner.spelling ++ ">"
  | array inner length => "[" ++ inner.spelling ++ "; " ++ toString length ++ "]"

/-! ## Parts of a type -/

/-- The type of one element: an array without its length, any other type itself. -/
def element : FieldType → FieldType
  | array inner _ => inner
  | type => type

/-- The type without any wrapper. -/
def base : FieldType → FieldType
  | array inner _ => inner.base
  | flagged inner => inner.base
  | bounds inner => inner.base
  | type => type

/-- The length of an array. -/
def arrayLength? : FieldType → Option Nat
  | array _ length => some length
  | _ => none

/-- An element has no wrapper around it. -/
def isPlain (type : FieldType) : Bool :=
  match type.element with
  | flagged _ => false
  | bounds _ => false
  | _ => true

/-- The enum that the base names. -/
def enum? (type : FieldType) : Option EnumDef :=
  match type.base with
  | named _ (.enumeration e) _ => some e
  | _ => none

/-- The bitfield that the base names. -/
def bitfield? (type : FieldType) : Option BitfieldDef :=
  match type.base with
  | named _ (.bitfield b) _ => some b
  | _ => none

/-- The struct that the base embeds. -/
def embedded? (type : FieldType) : Option String :=
  match type.base with
  | named _ (.struct name) _ => some name
  | _ => none

/-- How values of the base behave, where the base is a scalar or an engine type. -/
def valueClass? (type : FieldType) : Option ValueClass :=
  match type.base with
  | int _ _ => some .integer
  | float => some .real
  | named _ (.engine valueClass) _ => some valueClass
  | _ => none

/-- The base is an index. -/
def isIndex (type : FieldType) : Bool :=
  type.valueClass? = some .index

/-! ## Values outside the struct -/

/-- The base is a reference to another tag. -/
def isDependency (type : FieldType) : Bool :=
  type.base = .dependency

/-- The base is a run of bytes. -/
def isData (type : FieldType) : Bool :=
  type.base = .data

/-- The struct that the elements of a nested sequence are of, and its identifier. -/
def reflexive? (type : FieldType) : Option (String × String) :=
  match type.base with
  | reflexive target ident => some (target, ident)
  | _ => none

/-- The base is a nested sequence. -/
def isReflexive (type : FieldType) : Bool :=
  type.reflexive?.isSome

/-! ## Wrappers -/

/-- A named base in native byte order, directly or inside a flag. -/
def inNativeOrder : FieldType → FieldType
  | named ident kind _ => named ident kind true
  | flagged inner => flagged inner.inNativeOrder
  | type => type

/-- An array when there is more than one element. -/
def repeated (type : FieldType) (count : Nat) : FieldType :=
  if 1 < count then array type count else type

end FieldType
end TagSchema
