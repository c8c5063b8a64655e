import TagSchema.Catalog.Basic
import TagSchema.Definition.Source
import TagSchema.Event
import TagSchema.Failure

/-!
# Loading definitions

A catalog is loaded from one document or from all documents below a directory. Directories are
walked in the order of names, so the result does not depend on how their entries are listed.
-/

namespace TagSchema
namespace Loading

open Storage

/-- A catalog that was loaded, and what was reported on the way. -/
structure Loaded where
  outcome : Except Failure Catalog
  events : List Event

/-- The definitions of a document that comes from a path. -/
def parseFrom (path source : String) : Except Failure (List Definition) :=
  match Definition.parse source with
  | .ok definitions => .ok definitions
  | .error fault => .error (.parse path fault)

/-- What is reported of tables that were accepted. -/
def validated (c : Catalog) : Event :=
  .catalogValidated c.enums.length c.bitfields.length c.structs.length

/-- The empty catalog, which is there without loading and of which nothing is reported. -/
def nothing : Loaded :=
  ⟨.ok .empty, []⟩

/-- Accepts tables. -/
def ofTables (t : Tables) : Loaded :=
  match Catalog.ofTables t with
  | .ok c => ⟨.ok c, [validated c]⟩
  | .error fault => ⟨.error (.schema fault), []⟩

/-- Accepts the definitions that were read, if they were. -/
def ofReading (reading : Except Failure (List Definition)) : Loaded :=
  match reading with
  | .ok definitions => ofTables (.ofDefinitions definitions)
  | .error failure => ⟨.error failure, []⟩

/-- Loads a catalog from one document. -/
def fromText (source : String) : Loaded :=
  ofReading (parseFrom "<string>" source)

/-- The definitions of the file that a path leads to. -/
def readFile (root : Node) (path : String) : Except Failure (List Definition) :=
  match root.readText path with
  | .ok source => parseFrom path source
  | .error e => .error (.file e)

/-- Loads a catalog from one file. -/
def fromFile (root : Node) (path : String) : Loaded :=
  ofReading (readFile root path)

/-! ## Directories -/

/-- The last name of a path. -/
def lastName (path : String) : String :=
  ((Node.pathNames path).filter fun name => name ≠ "" && name ≠ ".").getLastD ""

/-- A file name has an extension when it is what follows the last dot, and that dot does not open
the name. -/
def hasExtension (extension name : String) : Bool :=
  let backwards := name.toList.reverse
  let last := backwards.takeWhile (· ≠ '.')
  let before := (backwards.dropWhile (· ≠ '.')).tail
  !before.isEmpty && last.reverse = extension.toList

/-- A file whose definitions are loaded. -/
def isDefinitionFile (path : String) : Bool :=
  hasExtension "json" (lastName path)

/-- The definition files below a path, in the order in which they are walked. -/
def definitionFiles (root : Node) (path : String) : Except Failure (List (String × Bytes)) :=
  match root.resolve path with
  | .ok (_, node) => .ok ((node.files path).filter fun found => isDefinitionFile found.1)
  | .error e => .error (.walk path e)

/-- The definitions of a file that was walked to. -/
def readWalked (found : String × Bytes) : Except Failure (List Definition) :=
  match decode? found.2 with
  | some source => parseFrom found.1 source
  | none => .error (.file .notText)

/-- The definitions of each definition file below a path. -/
def readDirectory (root : Node) (path : String) : Except Failure (List (List Definition)) := do
  (← definitionFiles root path).mapM readWalked

/-- Loads a catalog from all definition files below a path. -/
def fromDirectory (root : Node) (path : String) : Loaded :=
  match readDirectory root path with
  | .ok documents =>
    let definitions := documents.flatten
    let loaded := ofTables (.ofDefinitions definitions)
    { loaded with
      events := .definitionsLoaded documents.length definitions.length path :: loaded.events }
  | .error failure => ⟨.error failure, []⟩

/-- Loads a catalog from what a path leads to, a directory or a file. -/
def fromPath (root : Node) (path : String) : Loaded :=
  if root.isDirectory path then fromDirectory root path else fromFile root path

end Loading
end TagSchema
