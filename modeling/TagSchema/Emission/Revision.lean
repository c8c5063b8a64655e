import TagSchema.Emission.Step

/-!
# Revision of values

Two concerns look for values that should be changed and change them on demand: references that
point at one tag are pointed at another, and vectors that should have unit length are given it.
-/

namespace TagSchema
namespace Emission
namespace Revision

/-! ## References -/

/-- What is done with a field when references are changed. -/
inductive Redirect where
  | replace
  | descend
deriving DecidableEq, Repr

/-- The step over a field when references are changed. -/
def redirectStep? (field : AnnotatedField) : Option (Step Redirect) :=
  if field.type.isDependency then some (.each field .replace)
  else if field.type.isReflexive then some (.each field .descend)
  else none

/-- The body of the method that changes references. -/
def redirectBody (s : Subject) : List (Piece Redirect) :=
  [.text "let mut replaced = 0;\n"] ++
    (s.fields.filterMap redirectStep?).map .step ++
    [.text "replaced\n"]

/-- How a field is treated when references are changed. -/
def writeRedirect (action : Redirect) (place : Place) : String :=
  match action with
  | .replace =>
    render (block ("if " ++ place.own ++ ".matches(from_path, from_class)") (
      line (place.own ++ ".set(to_path, to_class);") ++
      line "replaced += 1;"))
  | .descend =>
    descend place "iter_mut()"
      "replaced += element.refactor_reference(from_path, from_class, to_path, to_class);"

/-- The signature of the method that changes references. -/
def redirectSignature : String :=
  "pub fn refactor_reference(&mut self, from_path: &str, from_class: TagFourCC, " ++
    "to_path: &str, to_class: TagFourCC) -> usize"

/-- The code that changes references. -/
def redirect (s : Subject) : String :=
  implFor s [method redirectSignature (Piece.renderAll writeRedirect (redirectBody s))]

/-! ## Vectors -/

/-- What is done with a field when vectors are normalized. -/
inductive Scaling where
  | normalize
  | descend
deriving DecidableEq, Repr

/-- A field that should have unit length: one that says so, or any vector of a struct that says so.
A value inside a wrapper is left alone. -/
def shouldBeUnit (s : Subject) (field : AnnotatedField) : Bool :=
  field.type.isPlain &&
    (field.definition.normalize ||
      (s.capabilities.normalize && field.type.valueClass? = some .vector))

/-- The step over a field when vectors are normalized. -/
def scalingStep? (s : Subject) (field : AnnotatedField) : Option (Step Scaling) :=
  if shouldBeUnit s field then some (.each field .normalize)
  else if field.type.isReflexive then some (.each field .descend)
  else none

/-- The body of the method that normalizes vectors. -/
def scalingBody (s : Subject) : List (Piece Scaling) :=
  [.text "let mut nonnormal = false;\n"] ++
    (s.fields.filterMap (scalingStep? s)).map .step ++
    [.text "nonnormal\n"]

/-- How a field is treated when vectors are normalized. -/
def writeScaling (action : Scaling) (place : Place) : String :=
  match action with
  | .normalize =>
    render (block ("if !" ++ place.own ++ ".is_normalized()") (
      line "nonnormal = true;" ++
      block "if normalize" (line (place.own ++ " = " ++ place.own ++ ".normalize();"))))
  | .descend =>
    descend place "iter_mut()" "nonnormal |= element.check_for_nonnormal_vectors(normalize);"

/-- The code that normalizes vectors. -/
def scaling (s : Subject) : String :=
  implFor s [method "pub fn check_for_nonnormal_vectors(&mut self, normalize: bool) -> bool"
    (Piece.renderAll writeScaling (scalingBody s))]

end Revision
end Emission
end TagSchema
