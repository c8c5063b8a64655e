/-!
# Registry of engine types

Fields may name types that no definition declares because the engine provides them. The registry
knows these names and how values of each type behave.
-/

namespace TagSchema

/-- How values of a type behave in generated validators. -/
inductive ValueClass where
  | index
  | integer
  | real
  | vector
  | composite
  | opaqueValue
deriving DecidableEq, Repr

namespace ValueClass

/-- The value can be range checked as a single number. -/
def isNumeric : ValueClass → Bool
  | integer | real => true
  | _ => false

/-- Equality should tolerate rounding. -/
def isReal : ValueClass → Bool
  | real | vector | composite => true
  | _ => false

end ValueClass

/-- Names of engine types with their classes, each name once. -/
structure Registry where
  entries : List (String × ValueClass) := []
deriving DecidableEq, Repr

namespace Registry

/-- The class of a name. -/
def get? (r : Registry) (name : String) : Option ValueClass :=
  r.entries.lookup name

/-- The registry has a name. -/
def contains (r : Registry) (name : String) : Bool :=
  (r.get? name).isSome

/-- Removes a name. -/
def erase (r : Registry) (name : String) : Registry :=
  ⟨r.entries.filter (·.1 ≠ name)⟩

/-- Gives a name a class, in place of the one it had. -/
def insert (r : Registry) (name : String) (valueClass : ValueClass) : Registry :=
  ⟨(name, valueClass) :: (r.erase name).entries⟩

/-- The number of names. -/
def size (r : Registry) : Nat :=
  r.entries.length

/-- The registry has no names. -/
def isEmpty (r : Registry) : Bool :=
  r.entries.isEmpty

/-- The types that the engine provides. -/
def engineTypes : List (String × ValueClass) := [
  ("Index", .index),
  ("Angle", .real), ("Fraction", .real),
  ("Pointer", .integer), ("Pointer64", .integer),
  ("Vector2D", .vector), ("Vector3D", .vector), ("Quaternion", .vector),
  ("Point2D", .composite), ("Point3D", .composite), ("Euler2D", .composite),
  ("Euler3D", .composite), ("Plane2D", .composite), ("Plane3D", .composite),
  ("ColorRGB", .composite), ("ColorARGB", .composite), ("Matrix", .composite),
  ("TagString", .opaqueValue), ("TagFourCC", .opaqueValue), ("TagID", .opaqueValue),
  ("ColorARGBInt", .opaqueValue), ("Point2DInt", .opaqueValue), ("Rectangle2D", .opaqueValue),
  ("ScenarioScriptNodeValue", .opaqueValue)]

/-- Registers the types that the engine provides. -/
def insertEngineTypes (r : Registry) : Registry :=
  engineTypes.foldl (fun r entry => r.insert entry.1 entry.2) r

/-- The registry of the types that the engine provides. -/
def engine : Registry :=
  insertEngineTypes {}

end Registry
end TagSchema
