import TagSchema.Catalog.Order
import TagSchema.Emission.Pass
import TagSchema.Generation.Config

/-!
# Runs of the generator

A run emits structs one by one, each once, and collects what is written to each text. It either
succeeds as a whole or fails with the fault of the first struct that cannot be emitted.
-/

namespace TagSchema

open Emission

/-- A catalog with everything that decides what is generated from it. -/
structure Generator where
  catalog : Catalog
  registry : Registry := .engine
  config : Config := {}
  passes : List Pass := Pass.standardPasses

/-- Text that is added to the end of one of the texts of a run. -/
structure Write where
  target : Target
  text : String
deriving DecidableEq, Repr

/-- What a list of writes adds to a text. -/
def writtenTo (target : Target) (writes : List Write) : String :=
  String.join ((writes.filter (·.target = target)).map Write.text)

/-- What a run reports: the structs that were emitted, in order, and their exclusions. -/
structure Report (t : Tables) where
  structs : List t.StructId
  exclusions : ExclusionTable

/-- The outcome of a run. -/
structure Generated (t : Tables) where
  writes : List Write
  report : Report t

/-- A text of a run. -/
def Generated.text {t : Tables} (generated : Generated t) (target : Target) : String :=
  writtenTo target generated.writes

namespace Generator

variable (g : Generator)

/-- Handles of the structs that the generator knows. -/
abbrev StructId := g.catalog.StructId

/-- A struct as it is exposed. -/
def flatten (id : g.StructId) : Flattened :=
  g.catalog.flatten g.config.placeholders id

/-- A struct that is ready for emission. -/
def annotate (id : g.StructId) : Except SchemaError Annotated :=
  g.catalog.annotate g.registry g.config.placeholders id

/-- What a pass may look at for a struct. -/
def subject (id : g.StructId) (ident : String) (annotated : Annotated) : Subject :=
  let struct := g.catalog.struct id
  { name := struct.name
    ident := ident
    fields := annotated.fields
    groups := annotated.groups
    capabilities := struct.capabilities
    title := struct.title
    revealHidden := g.config.extractHidden
    registry := g.registry }

/-- What a pass writes for a struct. -/
def passWrites (s : Subject) (pass : Pass) : Except SchemaError (List Write) := do
  let emitted ← pass.emit s
  return [⟨.declarations, emitted.declarations⟩, ⟨.concern pass.artifact, emitted.code⟩]

/-- A struct that was emitted: what was written for it and what its fields may not hold. -/
structure EmittedStruct where
  writes : List Write
  fieldCount : Nat
  exclusions : ExclusionTable

/-- Emits a struct: every pass in order, then the trait of its hooks. -/
def emitStruct (id : g.StructId) : Except SchemaError EmittedStruct := do
  let ident ← requireIdentifier (g.catalog.struct id).name
  let annotated ← g.annotate id
  let s := g.subject id ident annotated
  let writes ← g.passes.mapM (passWrites s)
  return {
    writes := writes.flatten ++ [⟨.declarations, Value.hooksDeclaration s⟩]
    fieldCount := annotated.fields.length
    exclusions := annotated.exclusions }

/-- The preambles of all texts. -/
def preambles : List Write :=
  Target.all.map fun target => ⟨target, g.config.preamble target⟩

/-- The outcome of a run before the first struct: the preambles. -/
def start : Generated g.catalog.toTables where
  writes := g.preambles
  report := { structs := [], exclusions := {} }

/-- Emits the next struct of an order behind what was written so far, unless it was emitted before. -/
def emitNext (written : Generated g.catalog.toTables) (id : g.StructId) :
    Except SchemaError (Generated g.catalog.toTables) := do
  if written.report.structs.contains id then
    return written
  let emitted ← g.emitStruct id
  return {
    writes := written.writes ++ emitted.writes
    report := {
      structs := written.report.structs ++ [id]
      exclusions := written.report.exclusions.extend emitted.exclusions } }

/-- Emits the structs of an order, each at its first place. -/
def run (order : List g.StructId) : Except SchemaError (Generated g.catalog.toTables) :=
  order.foldlM g.emitNext g.start

/-- Emits every struct, in dependency order. -/
def generate : Except SchemaError (Generated g.catalog.toTables) :=
  g.run g.catalog.dependencyOrder

/-! ## Events -/

/-- What is reported while the structs of an order are emitted, after some that were seen, up to the
first fault. -/
def emitEvents (seen : List g.StructId) : List g.StructId → List Event
  | [] => []
  | id :: rest =>
    if seen.contains id then
      .alreadyEmitted (g.catalog.struct id).name :: emitEvents seen rest
    else
      match requireIdentifier (g.catalog.struct id).name with
      | .error _ => []
      | .ok _ =>
        g.catalog.annotateEvents g.registry g.config.placeholders id ++
          match g.emitStruct id with
          | .ok emitted => .structEmitted emitted.fieldCount :: emitEvents (id :: seen) rest
          | .error _ => []

/-- What is reported during a run. -/
def runEvents (order : List g.StructId) : List Event :=
  g.emitEvents [] order ++
    match g.run order with
    | .ok generated =>
      [.codeGenerated generated.report.structs.length generated.report.exclusions.size]
    | .error _ => []

end Generator
end TagSchema
