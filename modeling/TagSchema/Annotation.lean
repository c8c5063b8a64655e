import TagSchema.Event
import TagSchema.Exclusion.Resolution

/-!
# Annotated structs

A struct that is ready for emission: flattened, with every field resolved and every exclusion known.
All fields are resolved before the first exclusion is looked at.
-/

namespace TagSchema

/-- A struct that is ready for emission. -/
structure Annotated where
  id : Nat
  fields : List AnnotatedField
  groups : List Group
deriving DecidableEq, Repr

/-- The table of what the fields may not hold. -/
def Annotated.exclusions (a : Annotated) : ExclusionTable :=
  a.fields.zipIdx.foldl (fun table (field, position) =>
    match field.exclusion with
    | some exclusion => table.insert ⟨a.id, position⟩ exclusion
    | none => table) {}

namespace Tables

variable (t : Tables) (registry : Registry) (placeholders : List String)

/-- Flattens a struct, resolves its fields and then its exclusions. -/
def annotate (id : t.StructId) : Except SchemaError Annotated := do
  let flat := t.flatten placeholders id
  let resolved ← t.resolveFields registry flat.fields
  let fields ← resolved.mapM (·.annotate (t.struct id).name)
  return ⟨id, fields, flat.groups⟩

/-! ## Events -/

/-- What is reported while a step is taken item by item, up to the first fault. -/
def eventsUntilFault {α β : Type} (report : α → List Event) (step : α → Except SchemaError β) :
    List α → List Event
  | [] => []
  | item :: rest =>
    report item ++
      match step item with
      | .ok _ => eventsUntilFault report step rest
      | .error _ => []

/-- What is reported while a struct is flattened. -/
def flattenEvents (id : t.StructId) : List Event :=
  (t.flatten placeholders id).elided.map fun flat =>
    .fieldElided flat.owner flat.field.memberName

/-- What is reported while a struct is annotated. -/
def annotateEvents (id : t.StructId) : List Event :=
  let flat := t.flatten placeholders id
  let modifiers (f : FlatField) : List Event :=
    if f.field.ignoresModifiers then [.modifiersIgnored f.owner f.field.memberName] else []
  let struct := (t.struct id).name
  let exclusions (f : ResolvedField) : List Event :=
    if f.ignoresExclusions then [.exclusionsIgnored struct f.name] else []
  t.flattenEvents placeholders id ++
    eventsUntilFault modifiers (t.resolveField registry) flat.fields ++
    match t.resolveFields registry flat.fields with
    | .ok resolved => eventsUntilFault exclusions (·.annotate struct) resolved
    | .error _ => []

end Tables
end TagSchema
