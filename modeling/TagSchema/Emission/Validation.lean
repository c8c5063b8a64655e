import TagSchema.Emission.Step
import TagSchema.Number.Notation
import TagSchema.Text.Pieces
import TagSchema.Text.Uppercase

/-!
# Validation of values

Four concerns look for values that a struct should not hold: values of enums and bits of bitfields
outside their domain, references that are null or of the wrong class, numbers outside their limits,
and indices past the end of the sequence they point into. All of them go down into nested sequences.
-/

namespace TagSchema
namespace Emission
namespace Validation

/-! ## Enums and bitfields -/

/-- The values of an enum field that are broken, and the option that replaces them. -/
structure EnumGuard where
  options : Nat
  excluded : List Nat
  reset : Nat
  spelling : String
deriving DecidableEq, Repr

/-- The condition that generated code tests a raw value with. -/
def EnumGuard.condition (guard : EnumGuard) : String :=
  "raw >= " ++ toString guard.options ++
    (if guard.excluded.isEmpty then ""
     else " || matches!(raw, " ++ String.intercalate " | " (guard.excluded.map toString) ++ ")")

/-- What is checked of a field. -/
inductive DomainCheck where
  | enumeration (guard : EnumGuard)
  | bitfield (allowed : Mask)
  | descend
deriving DecidableEq, Repr

/-- The first option that is not excluded. -/
def firstAllowed? (options : Nat) (excluded : List Nat) : Option Nat :=
  (List.range options).find? (!excluded.contains ·)

/-- The guard of an enum field; there is none when every option is excluded. -/
def enumGuard (struct : String) (e : EnumDef) (field : AnnotatedField) :
    Except SchemaError EnumGuard :=
  let excluded := field.excludedOptions
  match firstAllowed? e.options.length excluded with
  | some reset => .ok ⟨e.options.length, excluded, reset, field.type.element.spelling⟩
  | none => .error (.allExcluded struct field.name e.name)

/-- The bits that a bitfield field may hold. -/
def allowedMask (b : BitfieldDef) (field : AnnotatedField) : Mask :=
  b.validMask &&& ~~~field.excludedMask

/-- The step that checks the domain of a field; values inside wrappers are not checked. -/
def domainStep? (struct : String) (field : AnnotatedField) :
    Except SchemaError (Option (Step DomainCheck)) :=
  match field.type.enum?.filter (fun _ => field.type.isPlain),
      field.type.bitfield?.filter (fun _ => field.type.isPlain) with
  | some e, _ => do
    return some (.each field (.enumeration (← enumGuard struct e field)))
  | none, some b => .ok (some (.each field (.bitfield (allowedMask b field))))
  | none, none => .ok (if field.type.isReflexive then some (.each field .descend) else none)

/-- The body of the method that checks domains. -/
def domainBody (s : Subject) : Except SchemaError (List (Piece DomainCheck)) := do
  let steps ← s.fields.mapM (domainStep? s.name)
  return [.text "let mut broken = false;\n"] ++ (steps.filterMap id).map .step ++
    [.text "broken\n"]

/-- How the domain of a field is checked. -/
def writeDomain (check : DomainCheck) (place : Place) : String :=
  match check with
  | .enumeration guard =>
    scope (render (
      line ("let raw = usize::from(" ++ place.own ++ ".raw());") ++
      block ("if " ++ guard.condition) (
        line "broken = true;" ++
        block "if reset" (
          line (place.own ++ " = <" ++ guard.spelling ++ ">::from_raw(" ++ toString guard.reset ++
            ");")))))
  | .bitfield allowed =>
    let mask := maskLiteral allowed
    render (block ("if " ++ place.own ++ ".bits() & !" ++ mask ++ " != 0") (
      line "broken = true;" ++
      block "if reset" (line (place.own ++ ".retain_bits(" ++ mask ++ ");"))))
  | .descend => descend place "iter_mut()" "broken |= element.check_for_broken_enums(reset);"

/-- The code that checks domains. -/
def domains (s : Subject) : Except SchemaError String := do
  return implFor s [method "pub fn check_for_broken_enums(&mut self, reset: bool) -> bool"
    (Piece.renderAll writeDomain (← domainBody s))]

/-! ## References -/

/-- The pieces of a name between underscores, blanks and hyphens. -/
def words (name : List Char) : List (List Char) :=
  Text.pieces (fun c => c = '_' || c = ' ' || c = '-') name

/-- A word with its first letter in upper case. -/
def capitalize : List Char → List Char
  | [] => []
  | c :: rest => Text.upper c ++ rest

/-- A name with its words joined, each with its first letter in upper case. -/
def upperCamel (name : String) : String :=
  String.ofList ((words name.toList).flatMap capitalize)

/-- What is checked of a field. -/
inductive ReferenceCheck where
  | classes (nonNull : Bool) (classes : List String)
  | descend
deriving DecidableEq, Repr

/-- The step that checks the references of a field. -/
def referenceStep? (field : AnnotatedField) : Option (Step ReferenceCheck) :=
  let definition := field.definition
  if field.type.isDependency then
    if definition.nonNull || !definition.classes.isEmpty then
      some (.each field (.classes definition.nonNull definition.classes))
    else
      none
  else if field.type.isReflexive then
    some (.each field .descend)
  else
    none

/-- The body of the method that checks references. -/
def referenceBody (s : Subject) : List (Piece ReferenceCheck) :=
  [.text "let mut invalid = false;\n"] ++ (s.fields.filterMap referenceStep?).map .step ++
    [.text "invalid\n"]

/-- Notes a value as invalid under a condition. -/
def invalidWhen (condition : String) : List Row :=
  block ("if " ++ condition) (line "invalid = true;")

/-- How the references of a field are checked. -/
def writeReference (check : ReferenceCheck) (place : Place) : String :=
  match check with
  | .classes nonNull classes =>
    let allowed := String.intercalate " | " (classes.map fun name => "TagFourCC::" ++ upperCamel name)
    render (
      (if nonNull then invalidWhen (place.own ++ ".is_null()") else []) ++
      (if classes.isEmpty then []
       else invalidWhen ("!" ++ place.own ++ ".is_null() && !matches!(" ++ place.own ++
        ".tag_fourcc(), " ++ allowed ++ ")")))
  | .descend => descend place "iter()" "invalid |= element.check_for_invalid_references();"

/-- The code that checks references. -/
def references (s : Subject) : String :=
  implFor s [method "pub fn check_for_invalid_references(&self) -> bool"
    (Piece.renderAll writeReference (referenceBody s))]

/-! ## Limits -/

/-- The numbers that can be reached through the wrappers of a type, as numbers of one kind: both ends of
bounds, and the number behind a flag. The conversion depends on what is reached. -/
def numericPlaces : FieldType → String → List String
  | .array inner _, place => numericPlaces inner place
  | .bounds inner, place =>
    numericPlaces inner (place ++ ".from") ++ numericPlaces inner (place ++ ".to")
  | .flagged inner, place => numericPlaces inner (place ++ ".get()")
  | .int _ _, place => ["(" ++ place ++ " as f64)"]
  | _, place => ["f64::from(" ++ place ++ ")"]

/-- Limits of a number. -/
structure Limits where
  minimum : Option Binary64
  maximum : Option Binary64
deriving DecidableEq, Repr

/-- The limits of a field, if it has any. -/
def limits? (field : AnnotatedField) : Option Limits :=
  let limits : Limits := ⟨field.definition.minimum, field.definition.maximum⟩
  if limits.minimum.isNone && limits.maximum.isNone then none else some limits

/-- The condition under which a number is outside its limits. -/
def Limits.violated (limits : Limits) (number : String) : String :=
  String.intercalate " || " (
    (limits.minimum.toList.map fun x => number ++ " < " ++ x.literal) ++
    limits.maximum.toList.map fun x => number ++ " > " ++ x.literal)

/-- What is checked of a field: the numbers of each element, the length of a nested sequence, and the
elements of a nested sequence. -/
inductive RangeCheck where
  | numbers (limits : Limits) (type : FieldType)
  | length (limits : Limits)
  | descend
deriving DecidableEq, Repr

/-- The steps that check the limits of a field. -/
def rangeSteps (field : AnnotatedField) : List (Step RangeCheck) :=
  let limited : List (Step RangeCheck) :=
    match limits? field with
    | none => []
    | some limits =>
      if field.type.isReflexive then [.each field (.length limits)]
      else if field.type.valueClass?.any ValueClass.isNumeric then
        [.each field (.numbers limits field.type.element)]
      else []
  limited ++ if field.type.isReflexive then [.each field .descend] else []

/-- The body of the method that checks limits. -/
def rangeBody (s : Subject) : List (Piece RangeCheck) :=
  [.text "let mut invalid = false;\n"] ++ (s.fields.flatMap rangeSteps).map .step ++
    [.text "invalid\n"]

/-- How the limits of a field are checked. -/
def writeRange (check : RangeCheck) (place : Place) : String :=
  match check with
  | .numbers limits type =>
    render ((numericPlaces type place.own).flatMap fun number =>
      invalidWhen (limits.violated number))
  | .length limits =>
    render (invalidWhen (limits.violated ("(" ++ place.own ++ ".len() as f64)")))
  | .descend => descend place "iter()" "invalid |= element.check_for_invalid_ranges();"

/-- The code that checks limits. -/
def ranges (s : Subject) : String :=
  implFor s [method "pub fn check_for_invalid_ranges(&self) -> bool"
    (Piece.renderAll writeRange (rangeBody s))]

/-! ## Indices -/

/-- What is checked of a field: the index values of each element against a sequence, and the
elements of a nested sequence. -/
inductive IndexCheck where
  | into (sequence : String) (type : FieldType)
  | descend
deriving DecidableEq, Repr

/-- The nested sequence with a member name. -/
def sequence? (s : Subject) (name : String) : Option AnnotatedField :=
  s.fields.find? fun field => field.name = name && field.type.isReflexive

/-- The step that checks the indices of a field. -/
def indexStep? (s : Subject) (field : AnnotatedField) :
    Except SchemaError (Option (Step IndexCheck)) :=
  match field.definition.indexOf.filter (fun _ => field.type.isIndex) with
  | some target =>
    match sequence? s target with
    | some sequence => .ok (some (.each field (.into sequence.ident field.type.element)))
    | none => .error (.unknownIndexTarget s.name field.name target)
  | none => .ok (if field.type.isReflexive then some (.each field .descend) else none)

/-- The body of the method that checks indices. -/
def indexBody (s : Subject) : Except SchemaError (List (Piece IndexCheck)) := do
  let steps ← s.fields.mapM (indexStep? s)
  return [.text "let mut invalid = false;\n"] ++ (steps.filterMap id).map .step ++
    [.text "invalid\n"]

/-- The index values that can be reached through the wrappers of an element. -/
def indexPlaces : FieldType → String → List String
  | .bounds inner, place =>
    indexPlaces inner (place ++ ".from") ++ indexPlaces inner (place ++ ".to")
  | .flagged inner, place => indexPlaces inner (place ++ ".get()")
  | _, place => [place]

/-- How the indices of a field are checked. -/
def writeIndex (check : IndexCheck) (place : Place) : String :=
  match check with
  | .into sequence type =>
    render ((indexPlaces type place.own).flatMap fun index =>
      invalidWhen (index ++ " != NULL_INDEX && usize::from(" ++ index ++ ") >= self." ++ sequence ++
        ".len()"))
  | .descend => descend place "iter()" "invalid |= element.check_for_invalid_indices();"

/-- The code that checks indices. -/
def indices (s : Subject) : Except SchemaError String := do
  return implFor s [method "pub fn check_for_invalid_indices(&self) -> bool"
    (Piece.renderAll writeIndex (← indexBody s))]

end Validation
end Emission
end TagSchema
