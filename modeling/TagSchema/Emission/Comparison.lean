import TagSchema.Emission.Step

/-!
# Comparison

Two values of a struct are compared field by field. Real-valued fields compare approximately unless
precision is asked for; volatile fields and cache-only bits can be left out.
-/

namespace TagSchema
namespace Emission
namespace Comparison

/-- How the values of a field are compared. -/
inductive Test where
  | exact
  | approximate
  | masked (mask : Mask)
  | elements
deriving DecidableEq, Repr

/-- A test, which volatile fields can be left out of. -/
structure FieldTest where
  isVolatile : Bool
  test : Test
deriving DecidableEq, Repr

/-- The step that compares a field. -/
def testStep (field : AnnotatedField) : Step FieldTest :=
  let isVolatile := field.definition.volatile
  if field.type.isReflexive then
    .each field ⟨isVolatile, .elements⟩
  else if field.cacheOnlyMask ≠ 0 && field.type.isPlain then
    .each field ⟨isVolatile, .masked field.cacheOnlyMask⟩
  else if field.type.valueClass?.any ValueClass.isReal then
    .whole field ⟨isVolatile, .approximate⟩
  else
    .whole field ⟨isVolatile, .exact⟩

/-- The body of the method that compares two values. -/
def body (s : Subject) : List (Piece FieldTest) :=
  s.fields.map (fun field => .step (testStep field)) ++ [.text "true\n"]

/-- The condition under which the values at a place are equal. -/
def equality (test : Test) (place : Place) : String :=
  let mine := place.own
  let theirs := place.of "other"
  match test with
  | .exact => mine ++ " == " ++ theirs
  | .approximate =>
    "if precision \x7b " ++ mine ++ " == " ++ theirs ++
      " \x7d else \x7b hek::ApproxEq::approx_eq(&" ++ mine ++ ", &" ++ theirs ++ ") \x7d"
  | .masked mask =>
    let bits := ".bits() & !" ++ maskLiteral mask
    "if ignore_volatile \x7b (" ++ mine ++ bits ++ ") == (" ++ theirs ++ bits ++
      ") \x7d else \x7b " ++ mine ++ " == " ++ theirs ++ " \x7d"
  | .elements =>
    mine ++ ".len() == " ++ theirs ++ ".len() && " ++ mine ++ ".iter().zip(" ++ theirs ++
      ".iter()).all(|(a, b)| a.compare(b, precision, ignore_volatile))"

/-- How a field is compared. -/
def writeTest (test : FieldTest) (place : Place) : String :=
  let guard := if test.isVolatile then "!ignore_volatile && " else ""
  render (block ("if " ++ guard ++ "!(" ++ equality test.test place ++ ")") (line "return false;"))

/-- The signature of the method that compares two values. -/
def signature : String :=
  "pub fn compare(&self, other: &Self, precision: bool, ignore_volatile: bool) -> bool"

/-- The code that compares two values. -/
def compare (s : Subject) : String :=
  implFor s [method signature (Piece.renderAll writeTest (body s))]

end Comparison
end Emission
end TagSchema
