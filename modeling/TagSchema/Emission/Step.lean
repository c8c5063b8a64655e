import TagSchema.Emission.Code
import TagSchema.Emission.Subject

/-!
# Steps over fields

The body of a generated method is a list of pieces: fixed statements, calls of hooks, and steps over
fields. A step is an action on one field; over an array it stands in a loop and acts on each
element. What an action means is data; how it is written is left to the pass.
-/

namespace TagSchema
namespace Emission

open Text

/-- Where an action takes place: a field, or the element of it that the loop is at. -/
structure Place where
  ident : String
  indexed : Bool
deriving DecidableEq, Repr

/-- The place inside a value. -/
def Place.of (place : Place) (value : String) : String :=
  value ++ "." ++ place.ident ++ (if place.indexed then "[i]" else "")

/-- The place inside the struct itself. -/
def Place.own (place : Place) : String :=
  place.of "self"

/-- An action on a field, in a loop over the elements of an array if it has a bound. -/
structure Step (α : Type) where
  ident : String
  loop : Option Nat
  action : α
deriving DecidableEq, Repr

namespace Step

variable {α : Type}

/-- An action on a field as a whole. -/
def whole (field : AnnotatedField) (action : α) : Step α :=
  ⟨field.ident, none, action⟩

/-- An action on each element of a field. -/
def each (field : AnnotatedField) (action : α) : Step α :=
  ⟨field.ident, field.type.arrayLength?, action⟩

/-- The text of a step. -/
def render (write : α → Place → String) (step : Step α) : String :=
  match step.loop with
  | some length => headed ("for i in 0.." ++ toString length) (write step.action ⟨step.ident, true⟩)
  | none => write step.action ⟨step.ident, false⟩

end Step

/-- A piece of the body of a method. -/
inductive Piece (α : Type) where
  | text (code : String)
  | hook (hook : Hook) (code : String)
  | step (step : Step α)
deriving DecidableEq, Repr

namespace Piece

variable {α : Type}

/-- The call of a hook, if the struct asks for it. -/
def call (s : Subject) (hook : Hook) (receiver arguments : String) : List (Piece α) :=
  if s.capabilities.has hook then [.hook hook (s.hookCall hook receiver arguments)] else []

/-- The call of a hook under a condition, if the struct asks for it. -/
def callWhen (condition : String) (s : Subject) (hook : Hook) (receiver arguments : String) :
    List (Piece α) :=
  if s.capabilities.has hook then
    [.hook hook (headed ("if " ++ condition) (s.hookCall hook receiver arguments))]
  else
    []

/-- The text of a piece. -/
def render (write : α → Place → String) : Piece α → String
  | text code => code
  | hook _ code => code
  | step s => s.render write

/-- The text of a body. -/
def renderAll (write : α → Place → String) (pieces : List (Piece α)) : String :=
  String.join (pieces.map (render write))

end Piece

/-- The implementation block of a struct. -/
def implFor (s : Subject) (items : List String) : String :=
  implBlock ("impl " ++ s.ident) items

/-- A loop that calls a statement on each element of a nested sequence. -/
def descend (place : Place) (iterator statement : String) : String :=
  render (block ("for element in " ++ place.own ++ "." ++ iterator) (line statement))

/-- The field is stored inside its struct: it is neither a dependency nor data nor a nested sequence. -/
def isInline (field : AnnotatedField) : Bool :=
  !(field.type.isDependency || field.type.isData || field.type.isReflexive)

/-- A field copied as a whole from one form into another. -/
def convert (isArray : Bool) (place : Place) (destination source : String) : String :=
  let conversion := if isArray then ".map(Into::into);\n" else ".into();\n"
  place.of destination ++ " = " ++ place.of source ++ conversion

/-- The literal of a mask. -/
def maskLiteral (mask : Mask) : String :=
  "0x" ++ String.ofList (Nat.toDigits 16 mask.toNat)

end Emission
end TagSchema
