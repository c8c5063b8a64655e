import TagSchema.Emission.Step
import TagSchema.FieldType.Initial
import TagSchema.Text.Blank
import TagSchema.Text.Quoted

/-!
# Values of a struct

The declaration of a struct with its initial values, the trait of its hooks, and the view that an
editor has of it. The declaration and the trait go to the declarations, the view is a concern of its
own.
-/

namespace TagSchema
namespace Emission
namespace Value

open Text

/-! ## Declaration -/

/-- The documentation lines of a field. -/
def commentLines (field : AnnotatedField) : List String :=
  match field.definition.comment with
  | some comment => (lines comment).map fun text => "/// " ++ trimEnd text ++ "\n"
  | none => []

/-- The declaration of a member, after its documentation. -/
def member (field : AnnotatedField) : String :=
  String.join (commentLines field) ++
    "pub " ++ field.ident ++ ": " ++ field.type.spelling ++ ",\n"

/-- The expression for the initial value of a field. -/
def initialExpression (field : AnnotatedField) : String :=
  match field.initial with
  | some value => value.expression field.type
  | none => "Default::default()"

/-- The initial value of a member. -/
def initializer (field : AnnotatedField) : String :=
  field.ident ++ ": " ++ initialExpression field ++ ",\n"

/-- The declaration of the struct and its initial values. -/
def declaration (s : Subject) : String :=
  "#[derive(Debug, Clone)]\n" ++
    headed ("pub struct " ++ s.ident) (String.join (s.fields.map member)) ++ "\n" ++
    implBlock ("impl Default for " ++ s.ident) [
      method "fn default() -> Self" (headed "Self" (String.join (s.fields.map initializer)))]

/-- The trait of the hooks, nothing when the struct asks for none. -/
def hooksDeclaration (s : Subject) : String :=
  if s.capabilities.hooks.isEmpty then
    ""
  else
    render (block ("pub trait " ++ s.hooksTrait)
      (s.capabilities.declaredHooks.map fun hook => ⟨0, hook.signature⟩)) ++ "\n"

/-! ## Editor view -/

/-- An optional text as an expression. -/
def optionalText : Option String → String
  | some text => "Some(" ++ quoted text ++ ")"
  | none => "None"

/-- The entry of a group. -/
def groupEntry (group : Group) : String :=
  "ParserStructGroup \x7b name: " ++ quoted group.name ++ ", first: " ++ quoted group.first ++
    ", description: " ++ optionalText group.description ++ " \x7d,\n"

/-- A list of texts as an expression. -/
def textList (texts : List String) : String :=
  "&[" ++ String.intercalate ", " (texts.map quoted) ++ "]"

/-- What an editor is told about a field: the options or bits of it, and those that are excluded. -/
inductive Accessor where
  | options (names : List String) (excluded : List Nat)
  | bits (names : List String) (excluded : Mask)
  | other
deriving DecidableEq, Repr

/-- What an editor is told about a field. -/
def accessor (field : AnnotatedField) : Accessor :=
  match field.type.enum? with
  | some e => .options e.options field.excludedOptions
  | none =>
    match field.type.bitfield? with
    | some b => .bits b.fields field.excludedMask
    | none => .other

/-- The entry of a field. -/
def accessorEntry (field : AnnotatedField) : String :=
  let subject := quoted field.name ++ ", &mut self." ++ field.ident
  match accessor field with
  | .options names excluded =>
    "ParserStructValue::with_options(" ++ subject ++ ", " ++ textList names ++ ", &[" ++
      String.intercalate ", " (excluded.map toString) ++ "]),\n"
  | .bits names excluded =>
    "ParserStructValue::with_bits(" ++ subject ++ ", " ++ textList names ++ ", " ++
      maskLiteral excluded ++ "),\n"
  | .other => "ParserStructValue::new(" ++ subject ++ "),\n"

/-- The entries of the fields that an editor shows. -/
def entries (s : Subject) : List String :=
  (s.fields.filter s.isVisible).map accessorEntry

/-- The view that an editor has of the struct. -/
def view (s : Subject) : String :=
  implBlock ("impl ParserStruct for " ++ s.ident) [
    method "fn struct_name(&self) -> &'static str" (quoted s.name ++ "\n"),
    method "fn title_member(&self) -> Option<&'static str>" (optionalText s.title ++ "\n"),
    method "fn is_read_only(&self) -> bool"
      ((if s.capabilities.readOnly then "true" else "false") ++ "\n"),
    method "fn groups(&self) -> &'static [ParserStructGroup]"
      (enclose "&[" (String.join (s.groups.map groupEntry)) "]"),
    method "fn values(&mut self) -> Vec<ParserStructValue<'_>>"
      (enclose "vec![" (String.join (entries s)) "]")]

/-- A title has to be the name of a member. -/
def titleFault? (s : Subject) : Option SchemaError :=
  match s.title with
  | some title =>
    if s.fields.any (·.name = title) then none else some (.unknownTitle s.name title)
  | none => none

end Value
end Emission
end TagSchema
