import TagSchema.Artifact
import TagSchema.Text.Lines

/-!
# Settings of a run

The settings of a run and the preamble that opens each of its texts.
-/

namespace TagSchema

/-- Inserts a name into increasing names, once. -/
def insertName (name : String) : List String → List String
  | [] => [name]
  | first :: rest =>
    if name < first then name :: first :: rest
    else if name = first then first :: rest
    else first :: insertName name rest

/-- The settings of a run; placeholders are in increasing order. -/
structure Config where
  header : Option String := none
  extractHidden : Bool := false
  runtimePath : String := "tag_runtime"
  placeholders : List String := ["PredictedResource"]
deriving DecidableEq, Repr

namespace Config

/-- Adds a struct whose nested sequences are left out of every struct. -/
def addPlaceholder (config : Config) (name : String) : Config :=
  { config with placeholders := insertName name config.placeholders }

/-- The lines of the header of every text. -/
def headerLines (config : Config) : List String :=
  match config.header with
  | some header => Text.lines header
  | none => ["Auto-generated by tagdef-codegen", "DO NOT EDIT MANUALLY"]

/-- The header of every text: each line as a comment, then an empty line. -/
def headerText (config : Config) : String :=
  String.join (config.headerLines.map fun line => "// " ++ line ++ "\n") ++ "\n"

/-- The code that opens a text, after the header. -/
def opening (config : Config) : Target → String
  | .declarations =>
    String.join (Artifact.all.map fun artifact => "mod " ++ artifact.moduleName ++ ";\n") ++
      "\nuse " ++ config.runtimePath ++ "::prelude::*;\n\n"
  | .concern _ =>
    "#![allow(unused_mut, unused_variables, clippy::all)]\n\nuse super::*;\n\n"

/-- The preamble of a text. -/
def preamble (config : Config) (target : Target) : String :=
  config.headerText ++ config.opening target

end Config
end TagSchema
