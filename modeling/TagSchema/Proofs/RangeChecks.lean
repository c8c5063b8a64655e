import Mathlib.Algebra.Group.Nat.Defs
import TagSchema.Proofs.Bodies
import TagSchema.Proofs.IndexChecks

/-!
# Checks of limits

The check of a struct compares numbers with the limits of their fields: each number that can be
reached in a field of numbers, and each of them once. The numbers are found by a walk through the
wrappers like the one that finds index values, but each of them is converted on the way out. Apart
from numbers, only the lengths of nested sequences have limits.

Main results:

- `Emission.Validation.numericPlaces_eq`: numbers are converted index values.
- `Emission.Validation.stripped?_converted`: a conversion can be taken off again.
- `Emission.Validation.ranges_eq`: the code of a check is put together from fields.
- `Generator.limits_are_checked_once`: the numbers of a type, and the checks of a struct.
-/

namespace TagSchema

/-! ## Numbers of a type -/

namespace FieldType

/-- The number of bounds in a type. -/
def boundsCount : FieldType → Nat
  | array inner _ => inner.boundsCount
  | bounds inner => inner.boundsCount + 1
  | flagged inner => inner.boundsCount
  | _ => 0

/-- The type without its arrays, wherever they are in it. -/
def withoutArrays : FieldType → FieldType
  | array inner _ => inner.withoutArrays
  | bounds inner => .bounds inner.withoutArrays
  | flagged inner => .flagged inner.withoutArrays
  | type => type

theorem arrayFree_withoutArrays (type : FieldType) : type.withoutArrays.arrayFree = true := by
  induction type with
  | array inner length ih => exact ih
  | bounds inner ih => exact ih
  | flagged inner ih => exact ih
  | _ => rfl

/-- Freeing a type of arrays keeps its bounds. -/
theorem boundsCount_withoutArrays (type : FieldType) :
    type.withoutArrays.boundsCount = type.boundsCount := by
  induction type with
  | array inner length ih => exact ih
  | bounds inner ih => exact congrArg (· + 1) ih
  | flagged inner ih => exact ih
  | _ => rfl

theorem withoutArrays_of_arrayFree {type : FieldType} (h : type.arrayFree = true) :
    type.withoutArrays = type := by
  induction type with
  | array => cases h
  | bounds inner ih => exact congrArg bounds (ih h)
  | flagged inner ih => exact congrArg flagged (ih h)
  | _ => rfl

/-- Each pair of bounds doubles the paths. -/
theorem length_paths {type : FieldType} (h : type.arrayFree = true) :
    type.paths.length = 2 ^ type.boundsCount := by
  induction type with
  | array => cases h
  | bounds inner ih =>
      rw [paths, List.length_append, List.length_map, List.length_map, ih h, boundsCount,
        Nat.pow_succ]
      omega
  | flagged inner ih =>
      rw [paths, List.length_map, ih h, boundsCount]
  | _ => rfl

end FieldType

namespace Emission
namespace Validation

/-- A value as a number that limits can be compared with. -/
def converted (base : FieldType) (place : String) : String :=
  match base with
  | .int _ _ => "(" ++ place ++ " as f64)"
  | _ => "f64::from(" ++ place ++ ")"

/-- The value that a number was converted from. -/
def stripped? (number : String) : Option String :=
  ((Literal.between? "(".toList " as f64)".toList number.toList).or
    (Literal.between? "f64::from(".toList ")".toList number.toList)).map String.ofList

/-- A conversion can be taken off again. -/
theorem stripped?_converted (base : FieldType) (place : String) :
    stripped? (converted base place) = some place := by
  have hcast : stripped? ("(" ++ place ++ " as f64)") = some place := by
    have hbetween := Literal.between?_append "(".toList place.toList " as f64)".toList
    rw [stripped?, String.append_assoc, String.toList_append, String.toList_append, hbetween]
    simp
  have hfrom : stripped? ("f64::from(" ++ place ++ ")") = some place := by
    have hbetween := Literal.between?_append "f64::from(".toList place.toList ")".toList
    have hother : Literal.between? "(".toList " as f64)".toList
        ("f64::from(".toList ++ (place.toList ++ ")".toList)) = none := rfl
    rw [stripped?, String.append_assoc, String.toList_append, String.toList_append, hbetween,
      hother]
    simp
  cases base with
  | int => exact hcast
  | _ => exact hfrom

/-- Different places stay different after their conversion. -/
theorem converted_injective (base : FieldType) : Function.Injective (converted base) := by
  intro place other h
  have hstripped := congrArg stripped? h
  rwa [stripped?_converted, stripped?_converted, Option.some.injEq] at hstripped

/-- Numbers are reached like index values, past all arrays, and then converted. -/
theorem numericPlaces_eq (type : FieldType) (place : String) :
    numericPlaces type place =
      (indexPlaces type.withoutArrays place).map (converted type.base) := by
  induction type generalizing place with
  | array inner length ih => exact ih place
  | bounds inner ih =>
      rw [numericPlaces, ih, ih, FieldType.withoutArrays, indexPlaces, List.map_append]
      rfl
  | flagged inner ih =>
      rw [numericPlaces, ih, FieldType.withoutArrays, indexPlaces]
      rfl
  | _ => rfl

/-- The numbers of a type along its paths. -/
theorem numericPlaces_eq_paths (type : FieldType) (place : String) :
    numericPlaces type place =
      type.withoutArrays.paths.map fun path => converted type.base (Access.reached place path) := by
  rw [numericPlaces_eq, indexPlaces_eq type.arrayFree_withoutArrays, List.map_map]
  rfl

/-- The numbers of a type at a place: each that can be reached, and each once. -/
structure ReachesOnce (type : FieldType) (place : String) : Prop where
  /-- Each pair of bounds doubles the numbers. -/
  length : (numericPlaces type place).length = 2 ^ type.boundsCount
  /-- No number is reached twice. -/
  nodup : (numericPlaces type place).Nodup
  /-- Without their conversions the numbers are the index values of the type without its arrays. -/
  stripped : (numericPlaces type place).map stripped? =
    (indexPlaces type.withoutArrays place).map some
  /-- Where the type has no array, these are its own index values. -/
  arrayFree : type.arrayFree = true →
    (numericPlaces type place).map stripped? = (indexPlaces type place).map some
  /-- The numbers are the values at the end of some path. -/
  reached : ∀ number, number ∈ numericPlaces type place ↔
    ∃ path, FieldType.Reaches type.withoutArrays path ∧
      number = converted type.base (Access.reached place path)

/-- The numbers of a type are reached once each, whatever its wrappers. -/
theorem reachesOnce (type : FieldType) (place : String) : ReachesOnce type place := by
  have hstripped : (numericPlaces type place).map stripped? =
      (indexPlaces type.withoutArrays place).map some := by
    rw [numericPlaces_eq, List.map_map]
    exact List.map_congr_left fun value _ => stripped?_converted type.base value
  refine ⟨?_, ?_, hstripped, ?_, ?_⟩
  · rw [numericPlaces_eq_paths, List.length_map,
      FieldType.length_paths type.arrayFree_withoutArrays, type.boundsCount_withoutArrays]
  · rw [numericPlaces_eq_paths]
    refine (FieldType.nodup_paths _).map ?_
    exact (converted_injective type.base).comp (Access.reached_injective place)
  · intro hfree
    rw [hstripped, FieldType.withoutArrays_of_arrayFree hfree]
  · intro number
    rw [numericPlaces_eq_paths, List.mem_map]
    simp only [FieldType.mem_paths_iff, eq_comm]

/-! ## Code of a check -/

/-- A comparison of a number with a limit. -/
inductive Comparison where
  | below (number : String) (limit : Binary64)
  | above (number : String) (limit : Binary64)
deriving DecidableEq, Repr

/-- How a comparison is written. -/
def Comparison.text : Comparison → String
  | below number limit => number ++ " < " ++ limit.literal
  | above number limit => number ++ " > " ++ limit.literal

/-- The comparisons of a number with the limits that a field declares. -/
def comparisons (field : FieldDef) (number : String) : List Comparison :=
  field.minimum.toList.map (.below number) ++ field.maximum.toList.map (.above number)

/-- The field declares a limit. -/
def isLimited (field : FieldDef) : Bool :=
  field.minimum.isSome || field.maximum.isSome

/-- The statement that flags a value when one of some comparisons holds. -/
def flagWhenAny (tests : List Comparison) : String :=
  render (block ("if " ++ String.intercalate " || " (tests.map Comparison.text))
    (line "invalid = true;"))

/-- The code that checks limits, from the code of each field. -/
def rangeCode (s : Subject) (checks : List String) : String :=
  implFor s [method "pub fn check_for_invalid_ranges(&self) -> bool"
    ("let mut invalid = false;\n" ++ String.join checks ++ "invalid\n")]

/-- The code that checks the limits of a field. -/
def rangeCheckOf (field : AnnotatedField) : String :=
  String.join ((rangeSteps field).map (Step.render writeRange))

/-- The code of a check is put together from fields. -/
theorem ranges_eq (s : Subject) : ranges s = rangeCode s (s.fields.map rangeCheckOf) := by
  have hjoin : String.join ((s.fields.flatMap rangeSteps).map (Step.render writeRange)) =
      String.join (s.fields.map rangeCheckOf) := by
    induction s.fields with
    | nil => rfl
    | cons field fields ih =>
        rw [List.flatMap_cons, List.map_append, String.join_append, ih, List.map_cons,
          String.join_cons]
        rfl
  rw [ranges, rangeCode, rangeBody, Piece.renderAll_append, Piece.renderAll_append,
    Piece.renderAll_text, Piece.renderAll_text, Piece.renderAll_map_step, hjoin]

/-- The check of a number against both limits, as it is printed. -/
theorem render_invalidWhen (field : FieldDef) (number : String) :
    render (invalidWhen (Limits.violated ⟨field.minimum, field.maximum⟩ number)) =
      flagWhenAny (comparisons field number) := by
  rw [flagWhenAny, comparisons, List.map_append, List.map_map, List.map_map]
  rfl

/-- The check of a field stands for one statement for each number of an element. -/
theorem writeRange_numbers (field : FieldDef) (type : FieldType) (place : Place) :
    writeRange (.numbers ⟨field.minimum, field.maximum⟩ type) place =
      String.join ((numericPlaces type place.own).map fun number =>
        flagWhenAny (comparisons field number)) := by
  rw [writeRange]
  induction numericPlaces type place.own with
  | nil => rfl
  | cons number numbers ih =>
      rw [List.flatMap_cons, List.map_cons, String.join_cons, ← ih, ← render_invalidWhen, render,
        List.map_append, String.join_append]
      rfl

/-! ## Checks of limits -/

/-- The base of a field is numbers. -/
def isNumeric (type : FieldType) : Bool :=
  type.valueClass?.any ValueClass.isNumeric

/-- The length of a nested sequence as a number. -/
def lengthAt (place : Place) : String :=
  "(" ++ place.own ++ ".len() as f64)"

/-- The check of the limits of a field. -/
structure ChecksLimits (field : AnnotatedField) (check : String) : Prop where
  /-- In each element of a field of numbers, each number is compared with each declared limit. -/
  numbers : isNumeric field.type = true → isLimited field.definition = true →
    check = onEach field fun place =>
      String.join ((numericPlaces field.type.element place.own).map fun number =>
        flagWhenAny (comparisons field.definition number))
  /-- The numbers are all that can be reached in an element. -/
  reached : ∀ place number, number ∈ numericPlaces field.type.element place ↔
    ∃ path, FieldType.Reaches field.type.element path ∧
      number = converted field.type.base (Access.reached place path)
  /-- Of a nested sequence the length is compared with the declared limits, and its elements are
  checked by themselves. -/
  lengths : field.type.isReflexive = true →
    check = (if isLimited field.definition then
        onEach field fun place => flagWhenAny (comparisons field.definition (lengthAt place))
      else "") ++
      onEach field fun place =>
        descend place "iter()" "invalid |= element.check_for_invalid_ranges();"
  /-- Nothing else is checked. -/
  others : field.type.isReflexive = false →
    isNumeric field.type = false ∨ isLimited field.definition = false → check = ""

/-- A field has limits when it gives a least or a greatest value. -/
theorem limits?_eq (field : AnnotatedField) :
    limits? field = if isLimited field.definition then
      some ⟨field.definition.minimum, field.definition.maximum⟩ else none := by
  unfold limits? isLimited
  cases field.definition.minimum <;> cases field.definition.maximum <;> rfl

theorem isReflexive_of_isNumeric {type : FieldType} (h : isNumeric type = true) :
    type.isReflexive = false := by
  rw [isNumeric, Option.any_eq_true] at h
  rcases h with ⟨valueClass, hclass, _⟩
  exact FieldType.isReflexive_of_valueClass? hclass

section Steps

variable {field : AnnotatedField}

/-- A limited field of numbers has one step, on all numbers of an element. -/
theorem rangeSteps_of_isNumeric (hnumeric : isNumeric field.type = true)
    (hlimited : isLimited field.definition = true) :
    rangeSteps field = [.each field
      (.numbers ⟨field.definition.minimum, field.definition.maximum⟩ field.type.element)] := by
  have hreflexive := isReflexive_of_isNumeric hnumeric
  rw [isNumeric] at hnumeric
  simp [rangeSteps, limits?_eq, hlimited, hreflexive, hnumeric]

/-- A nested sequence is checked for its length, if it is limited, and then entered. -/
theorem rangeSteps_of_isReflexive (h : field.type.isReflexive = true) :
    rangeSteps field = (if isLimited field.definition then
      [.each field (.length ⟨field.definition.minimum, field.definition.maximum⟩)] else []) ++
        [.each field .descend] := by
  cases hlimited : isLimited field.definition <;> simp [rangeSteps, limits?_eq, hlimited, h]

/-- There is no step for any other field. -/
theorem rangeSteps_of_not (hreflexive : field.type.isReflexive = false)
    (h : isNumeric field.type = false ∨ isLimited field.definition = false) :
    rangeSteps field = [] := by
  rw [isNumeric] at h
  rcases h with hnumeric | hlimited
  · cases hlimited : isLimited field.definition <;>
      simp [rangeSteps, limits?_eq, hlimited, hreflexive, hnumeric]
  · simp [rangeSteps, limits?_eq, hlimited, hreflexive]

theorem join_each (action : RangeCheck) :
    String.join ([Step.each field action].map (Step.render writeRange)) =
      onEach field (writeRange action) := by
  simp [String.join_cons, Step.render_each]

/-- The check of a field, where there is no array inside an element. -/
theorem checksLimits_rangeCheckOf (hfree : field.type.element.arrayFree = true) :
    ChecksLimits field (rangeCheckOf field) := by
  have hreached := fun place => (reachesOnce field.type.element place).reached
  rw [FieldType.withoutArrays_of_arrayFree hfree, FieldType.base_element] at hreached
  refine ⟨?_, hreached, ?_, ?_⟩
  · intro hnumeric hlimited
    rw [rangeCheckOf, rangeSteps_of_isNumeric hnumeric hlimited, join_each]
    exact congrArg (onEach field) (funext (writeRange_numbers field.definition field.type.element))
  · intro hreflexive
    rw [rangeCheckOf, rangeSteps_of_isReflexive hreflexive, List.map_append, String.join_append,
      join_each]
    refine congrArg₂ (· ++ ·) ?_ rfl
    split
    · rw [join_each]
      exact congrArg (onEach field)
        (funext fun place => render_invalidWhen field.definition (lengthAt place))
    · rfl
  · intro hreflexive hother
    rw [rangeCheckOf, rangeSteps_of_not hreflexive hother]
    rfl

end Steps

end Validation
end Emission

namespace Generator

open Emission Validation

/-- The numbers of any type at any place are reached once each, both ends of all bounds and past all
arrays, and they are converted index values. The check of a struct is put together from one check
for each field. That of a field of numbers compares every number that can be reached in an element
with every limit that the field declares. Apart from these, only the lengths of nested sequences are
compared with limits. -/
theorem limits_are_checked_once (g : Generator) {id : g.StructId} {annotated : Annotated}
    (h : g.annotate id = .ok annotated) (ident : String) :
    (∀ (type : FieldType) (place : String), ReachesOnce type place) ∧
    ∃ check : AnnotatedField → String,
      ranges (g.subject id ident annotated) =
        rangeCode (g.subject id ident annotated) (annotated.fields.map check) ∧
      ∀ field ∈ annotated.fields, ChecksLimits field (check field) := by
  refine ⟨reachesOnce, rangeCheckOf, ranges_eq _, ?_⟩
  intro field hfield
  rcases exists_resolveType_of_annotate h hfield with ⟨owner, htype⟩
  exact checksLimits_rangeCheckOf (Tables.arrayFree_element_of_resolveType htype)

/-- Batteries with limits on ranges of elevations, on the number of their shots and, to no effect,
on a color. -/
def battery : Generator where
  catalog := {
    structs := [
      { name := "Shot", fields := [] },
      { name := "Battery",
        fields := [
          { memberName := "elevations", type := .int 16 true, flagged := true, bounds := true,
            count := 3, minimum := some (.zero false), maximum := some (.ofNat 90) },
          { memberName := "shots", type := .reflexive, target := some "Shot",
            maximum := some (.ofNat 8) },
          { memberName := "tint", type := .named "ColorRGB", maximum := some (.ofNat 1) }] }]
    faultless := by decide }

/-- What the fields of a struct tell about their checks: whether they hold numbers or nested
sequences, and the bounds in an element. -/
def rangeFacts (a : Annotated) : List (Bool × Bool × Nat) :=
  a.fields.map fun field =>
    (isNumeric field.type, field.type.isReflexive, field.type.element.boundsCount)

/-- Both ends of each range of elevations are checked, the number of shots is checked, and the tint
is not. -/
theorem battery_limits_are_checked :
    ∃ (id : battery.StructId) (annotated : Annotated) (check : AnnotatedField → String),
      battery.annotate id = .ok annotated ∧
      ranges (battery.subject id "Battery" annotated) =
        rangeCode (battery.subject id "Battery" annotated) (annotated.fields.map check) ∧
      rangeFacts annotated = [(true, false, 1), (false, true, 0), (false, false, 0)] ∧
      (∀ field ∈ annotated.fields, ChecksLimits field (check field)) ∧
      (∀ field ∈ annotated.fields, isNumeric field.type = true →
        (numericPlaces field.type.element "self.elevations[i]").length = 2) ∧
      ∀ field ∈ annotated.fields, isNumeric field.type = false → field.type.isReflexive = false →
        check field = "" := by
  let id : battery.StructId := ⟨1, by decide⟩
  have hfacts : (battery.annotate id).map rangeFacts =
      .ok [(true, false, 1), (false, true, 0), (false, false, 0)] := by
    decide +kernel
  rcases Stepwise.map_eq_ok_iff.1 hfacts with ⟨annotated, hannotated, hfields⟩
  rcases battery.limits_are_checked_once hannotated "Battery" with ⟨hnumbers, check, hcode, hchecks⟩
  refine ⟨id, annotated, check, hannotated, hcode, hfields, hchecks, ?_, ?_⟩
  · intro field hfield hnumeric
    have hmem : (isNumeric field.type, field.type.isReflexive, field.type.element.boundsCount) ∈
        rangeFacts annotated := List.mem_map_of_mem hfield
    rw [hfields, hnumeric] at hmem
    have hentry : field.type.isReflexive = false ∧ field.type.element.boundsCount = 1 := by
      simpa using hmem
    rw [(hnumbers field.type.element "self.elevations[i]").length, hentry.2, pow_one]
  · intro field hfield hnumeric hreflexive
    exact (hchecks field hfield).others hreflexive (Or.inl hnumeric)

end Generator
end TagSchema
