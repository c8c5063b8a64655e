import TagSchema.FieldType.Basic
import TagSchema.Number.Notation

/-!
# Initial values

The value that a field starts with in generated code, the expression that spells it, and the rule
that says when an explicit default fits a type. A vector is spread over an array of numbers of the
same length or over a pair of bounds; a scalar is repeated.
-/

namespace TagSchema

/-- The value that a field starts with. -/
inductive InitialValue where
  | nullIndex
  | explicit (value : DefaultValue)
deriving DecidableEq, Repr

namespace FieldType

/-- The type is a number without a wrapper. -/
def isNumber : FieldType → Bool
  | int _ _ => true
  | float => true
  | _ => false

end FieldType

namespace InitialValue

/-- The scalars that a value of an array of `length` numbers is spread over. -/
def spreadArray? (value : InitialValue) (inner : FieldType) (length : Nat) :
    Option (List Binary64) :=
  match value with
  | explicit (.vector values) =>
    if inner.isNumber && values.length = length then some values else none
  | _ => none

/-- The two scalars that a value of a pair of bounds is spread over. -/
def spreadBounds? : InitialValue → Option (Binary64 × Binary64)
  | explicit (.vector [low, high]) => some (low, high)
  | _ => none

/-- The expression for a value of a type without wrappers. -/
def baseExpression (type : FieldType) : InitialValue → String
  | nullIndex => "NULL_INDEX"
  | explicit value =>
    match type, value with
    | .int _ _, .scalar x => toString x.toInt128 ++ type.spelling
    | .float, .scalar x => x.literal ++ "f32"
    | .named _ _ _, .scalar x => type.spelling ++ "::from(" ++ x.literal ++ ")"
    | .named _ _ _, .vector xs => type.spelling ++ "::from(" ++ Binary64.literalList xs ++ ")"
    | _, _ => "Default::default()"

/-- The expression that spells the initial value of a field. -/
def expression : FieldType → InitialValue → String
  | .array inner length, value =>
    match value.spreadArray? inner length with
    | some scalars =>
      "[" ++ String.intercalate ", "
        (scalars.map fun x => baseExpression inner (.explicit (.scalar x))) ++ "]"
    | none => "[" ++ expression inner value ++ "; " ++ toString length ++ "]"
  | .bounds inner, value =>
    match value.spreadBounds? with
    | some (low, high) =>
      "hek::Bounds::new(" ++ expression inner (.explicit (.scalar low)) ++ ", " ++
        expression inner (.explicit (.scalar high)) ++ ")"
    | none =>
      "hek::Bounds::new(" ++ expression inner value ++ ", " ++ expression inner value ++ ")"
  | .flagged inner, value => "hek::FlaggedInt::from(" ++ expression inner value ++ ")"
  | type, value => baseExpression type value

end InitialValue

namespace FieldType

/-- The least and the greatest integer of a width and a sign. -/
def intRange (bits : Nat) (signed : Bool) : Int × Int :=
  if signed then (-Int.pow 2 (bits - 1), Int.pow 2 (bits - 1) - 1) else (0, Int.pow 2 bits - 1)

/-- A number is a whole number within the range of an integer type. -/
def intHolds (bits : Nat) (signed : Bool) (x : Binary64) : Bool :=
  let range := intRange bits signed
  x.isWhole && range.1 ≤ x.toInt128 && x.toInt128 ≤ range.2

/-- An explicit default can be held by a type. Types that are not made of numbers take any default. -/
def fits : FieldType → DefaultValue → Bool
  | array inner length, value =>
    match value with
    | .vector values =>
      if inner.isNumber && values.length = length then
        values.all fun x => inner.fits (.scalar x)
      else
        inner.fits value
    | .scalar _ => inner.fits value
  | bounds inner, value =>
    match value with
    | .vector [low, high] => inner.fits (.scalar low) && inner.fits (.scalar high)
    | _ => inner.fits value
  | flagged inner, value => inner.fits value
  | int bits signed, .scalar x => intHolds bits signed x
  | float, .scalar x => x.isFinite
  | int _ _, .vector _ => false
  | float, .vector _ => false
  | _, _ => true

end FieldType

/-- A default as the author wrote it. -/
def DefaultValue.text : DefaultValue → String
  | .scalar x => x.plain
  | .vector xs => Binary64.literalList xs

end TagSchema
