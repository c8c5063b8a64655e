import TagSchema.CommandLine.Help
import TagSchema.Generation.Output
import TagSchema.Loading
import TagSchema.Text.Lines

/-!
# Sessions of the command line

What a command does to a tree of files and what it prints. A failure is reported with the step that
failed and, below it, its cause.
-/

namespace TagSchema
namespace CommandLine

open Storage

/-- The outcome of a session: the exit code, what is printed, and the files. -/
structure Outcome where
  exitCode : Nat
  output : String := ""
  errors : String := ""
  files : Node

/-- A failure with the step that failed, if it is known. -/
structure Complaint where
  step : Option String
  failure : Failure

/-- A text in which every line but the first is moved to the right by some blanks. -/
def hang (blanks text : String) : String :=
  text.replace "\n" ("\n" ++ blanks)

/-- The cause of a failed step. A document that cannot be read has a cause of its own, so it is
numbered. -/
def causeText (failure : Failure) : String :=
  match failure with
  | .parse .. => "    0: " ++ hang "       " failure.message
  | _ => "    " ++ hang "    " failure.message

/-- The report of a complaint: the step that failed, and its cause below it. -/
def Complaint.report (complaint : Complaint) : String :=
  match complaint.step with
  | some step => "Error: " ++ step ++ "\n\nCaused by:\n" ++ causeText complaint.failure
  | none => "Error: " ++ complaint.failure.message

/-- A complaint as it is printed: every line of the report with a plain newline at its end. -/
def Complaint.text (complaint : Complaint) : String :=
  String.join ((Text.lines complaint.report).map (· ++ "\n"))

/-- The generator for what the common settings ask for. -/
def generatorFor (root : Node) (common : Common) : Except Complaint Generator :=
  match (Loading.fromPath root common.definitions).outcome with
  | .error failure =>
    .error ⟨some ("failed to load definitions from " ++ common.definitions), failure⟩
  | .ok catalog =>
    let config : Config :=
      { runtimePath := common.runtimePath.getD ({} : Config).runtimePath
        extractHidden := common.extractHidden }
    .ok { catalog := catalog, config := common.placeholders.foldl Config.addPlaceholder config }

/-- An exclusion as it is described. -/
def exclusionText : Exclusion → String
  | .options positions => "Options(\x7b" ++ String.intercalate ", " (positions.map toString) ++ "\x7d)"
  | .mask bits => "Mask(" ++ toString bits.toNat ++ ")"

/-- The line that describes a field. -/
def describeField (exclusion : Option Exclusion) (field : AnnotatedField) : String :=
  field.name ++ ": " ++ field.type.spelling ++ " (" ++ field.owner ++ ")" ++
    (match exclusion with
     | some exclusion => " excludes " ++ exclusionText exclusion
     | none => "") ++ "\n"

/-- The fields and groups of a struct, one on a line. -/
def describe (annotated : Annotated) : String :=
  String.join (annotated.fields.zipIdx.map fun (field, position) =>
    describeField (annotated.exclusions.get? ⟨annotated.id, position⟩) field) ++
    String.join (annotated.groups.map fun group =>
      "group " ++ group.name ++ " from " ++ group.first ++ "\n")

/-- Describes a struct of a generator. -/
def describeStruct (g : Generator) (name : String) : Except SchemaError String := do
  let id ← g.catalog.requireStruct name
  return describe (← g.annotate id)

/-- Carries out a command: definitions are read from one tree and code is written to another. Gives
the tree that was written to and what is printed. -/
def carryOut (sources target : Node) : Command → Node × Except Complaint String
  | .generate common output header =>
    match generatorFor sources common with
    | .error complaint => (target, .error complaint)
    | .ok g =>
      let g := { g with config := { g.config with header := header } }
      match g.writeToDirectory target output with
      | (written, .ok _) => (written, .ok "")
      | (written, .error failure) =>
        (written, .error ⟨some ("failed to generate code into " ++ output), failure⟩)
  | .check common =>
    match generatorFor sources common with
    | .error complaint => (target, .error complaint)
    | .ok g =>
      match g.generate with
      | .ok _ => (target, .ok (toString g.catalog.structs.length ++ " structs OK\n"))
      | .error fault => (target, .error ⟨some "definitions are invalid", .schema fault⟩)
  | .flatten common name =>
    match generatorFor sources common with
    | .error complaint => (target, .error complaint)
    | .ok g =>
      match describeStruct g name with
      | .ok text => (target, .ok text)
      | .error fault => (target, .error ⟨none, .schema fault⟩)

/-- The name and version of the program. -/
def versionText : String := "tagdef 0.1.0\n"

/-- How the program is used. -/
def usageText : String := "Usage: " ++ Topic.program.usage ++ "\n"

/-- The outcome of reading arguments that ask for no command. -/
def Stop.outcome (files : Node) : Stop → Outcome
  | .wrong => { exitCode := 2, errors := usageText, files := files }
  | .help topic => { exitCode := 0, output := topic.text, files := files }
  | .version => { exitCode := 0, output := versionText, files := files }

/-- The outcome of a command. -/
def commandOutcome (sources target : Node) (command : Command) : Outcome :=
  match carryOut sources target command with
  | (files, .ok text) => { exitCode := 0, output := text, files := files }
  | (files, .error complaint) => { exitCode := 1, errors := complaint.text, files := files }

/-- A session with some arguments on a tree of files. -/
def session (root : Node) (arguments : List String) : Outcome :=
  match read arguments with
  | .error stop => stop.outcome root
  | .ok command => commandOutcome root root command

end CommandLine
end TagSchema
