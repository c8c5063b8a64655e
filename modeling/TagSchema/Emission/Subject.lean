import TagSchema.Annotation

/-!
# The struct that is emitted

Everything that a pass may look at while it emits the code of one struct.
-/

namespace TagSchema
namespace Emission

/-- A struct and what is needed to emit it. -/
structure Subject where
  name : String
  ident : String
  fields : List AnnotatedField
  groups : List Group
  capabilities : Capabilities
  title : Option String
  revealHidden : Bool
  registry : Registry

namespace Subject

/-- A raw identifier without its mark, at most `bound` marks being dropped. -/
def dropRawMark : Nat → List Char → List Char
  | bound + 1, 'r' :: '#' :: rest => dropRawMark bound rest
  | _, text => text

/-- The trait that declares the hooks of the struct. -/
def hooksTrait (s : Subject) : String :=
  String.ofList (dropRawMark s.ident.length s.ident.toList) ++ "Hooks"

/-- The call of a hook on a receiver, nothing when the struct does not ask for the hook. -/
def hookCall (s : Subject) (hook : Hook) (receiver arguments : String) : String :=
  if s.capabilities.has hook then
    let more := if arguments.isEmpty then "" else ", " ++ arguments
    s.hooksTrait ++ "::" ++ hook.methodName ++ "(" ++ receiver ++ more ++ ");\n"
  else
    ""

/-- The field appears in editors and in authoring output. -/
def isVisible (s : Subject) (field : AnnotatedField) : Bool :=
  !field.definition.hidden || s.revealHidden

/-- The wire form of the struct in a byte order. -/
def wireType (s : Subject) (order : String) : String :=
  "hek::" ++ s.ident ++ "<hek::" ++ order ++ ">"

/-- The fields that are nested sequences. -/
def reflexives (s : Subject) : List AnnotatedField :=
  s.fields.filter (·.type.isReflexive)

end Subject
end Emission
end TagSchema
