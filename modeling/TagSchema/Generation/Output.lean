import TagSchema.Failure
import TagSchema.Generation.Run
import TagSchema.Storage.Sink

/-!
# Output of runs

A run is made in memory first. Only when it succeeds is anything appended to artifacts or written to
files, so a fault of the definitions leaves both as they were.
-/

namespace TagSchema
namespace Generator

open Storage

variable (g : Generator)

/-- Appends a run over some structs to artifacts and flushes the declarations; gives the artifacts and
the tree afterwards. -/
def generateInto (order : List g.StructId) (artifacts : Artifacts) (root : Node) :
    (Artifacts × Node) × Except SchemaError (Report g.catalog.toTables) :=
  match g.run order with
  | .error fault => ((artifacts, root), .error fault)
  | .ok generated =>
    let (artifacts, root) := artifacts.appendAll root generated.text
    (artifacts.flushDeclarations root, .ok generated.report)

/-- Writes a run over all structs into files of a directory. -/
def writeToDirectory (root : Node) (dir : String) :
    Node × Except Failure (Report g.catalog.toTables) :=
  match g.generate with
  | .error fault => (root, .error (.schema fault))
  | .ok generated =>
    match Artifacts.createIn root dir with
    | (root, .error e) => (root, .error (.file e))
    | (root, .ok artifacts) =>
      let (artifacts, root) := artifacts.appendAll root generated.text
      let (_, root) := artifacts.flush root Target.all
      (root, .ok generated.report)

/-- What is reported while a run is written into files. -/
def writeEvents (root : Node) (dir : String) : List Event :=
  g.runEvents g.catalog.dependencyOrder ++
    match g.generate, (Artifacts.createIn root dir).2 with
    | .ok _, .ok _ => [.filesCreated dir]
    | _, _ => []

end Generator
end TagSchema
