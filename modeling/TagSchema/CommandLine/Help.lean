import TagSchema.CommandLine.Arguments
import TagSchema.Generation.Config

/-!
# Help

The help on the program and on each of its commands. A help text says what is done, how it is asked
for, and lists commands, arguments and options with their descriptions.
-/

namespace TagSchema
namespace CommandLine

/-! ## Layout -/

/-- An entry of a list: what is typed, what stands before it, and its description. -/
structure HelpEntry where
  lead : String := ""
  typed : String
  about : String
deriving DecidableEq, Repr

/-- A list of entries under a heading. -/
structure HelpList where
  heading : String
  entries : List HelpEntry
deriving DecidableEq, Repr

namespace HelpList

/-- The width that the entries of a list need. -/
def entryWidth (l : HelpList) : Nat :=
  l.entries.foldl (fun width entry => max width entry.typed.length) 0

/-- An entry of a list as it is printed: the descriptions stand in one column beside the entries. -/
def entryText (l : HelpList) (entry : HelpEntry) : String :=
  "  " ++ entry.lead ++ entry.typed ++ "".pushn ' ' (l.entryWidth - entry.typed.length + 2) ++
    entry.about ++ "\n"

/-- A list as it is printed. -/
def text (l : HelpList) : String :=
  l.heading ++ ":\n" ++ String.join (l.entries.map l.entryText)

end HelpList

/-! ## Entries -/

/-- The entry of an option. -/
def optionEntry (short : Option Char) (long : String) (value : Option String) (about : String) :
    HelpEntry where
  lead :=
    match short with
    | some name => "-" ++ name.toString ++ ", "
    | none => "    "
  typed :=
    match value with
    | some value => "--" ++ long ++ " <" ++ value ++ ">"
    | none => "--" ++ long
  about := about

/-- The entry of an option without a value. -/
def Flag.entry : Flag → HelpEntry
  | verbose => optionEntry (some 'v') "verbose" none "Log debug output"
  | extractHidden => optionEntry none "extract-hidden" none "Treat hidden fields as visible"
  | help => optionEntry (some 'h') "help" none "Print help"
  | version => optionEntry (some 'V') "version" none "Print version"

/-- The entry of an option with a value. -/
def Setting.entry : Setting → HelpEntry
  | definitions =>
    optionEntry (some 'd') "definitions" (some "DEFINITIONS")
      "Definition file or directory of definition files"
  | output => optionEntry (some 'o') "output" (some "OUTPUT") "Output directory for generated code"
  | header => optionEntry none "header" (some "HEADER") "Header comment for generated files"
  | runtimePath =>
    optionEntry none "runtime-path" (some "RUNTIME_PATH")
      ("Crate path the generated code imports its runtime prelude from [default: " ++
        ({} : Config).runtimePath ++ "]")
  | placeholder =>
    optionEntry none "placeholder" (some "PLACEHOLDERS")
      "Additional placeholder struct (can be repeated)"

/-- The entry of a command. -/
def Verb.entry : Verb → HelpEntry
  | generate => { typed := "generate", about := "Generate code for every struct" }
  | check => { typed := "check", about := "Validate definitions without writing anything" }
  | flatten => { typed := "flatten", about := "Show the flattened fields of one struct" }

/-- The entry of the command that prints help. -/
def helpEntry : HelpEntry :=
  { typed := "help", about := "Print this message or the help of the given subcommand(s)" }

/-- The entry of the name that one command takes. -/
def nameEntry : HelpEntry :=
  { typed := "<NAME>", about := "Struct name" }

/-- The entry of the commands that help is asked for. -/
def topicEntry : HelpEntry :=
  { typed := "[COMMAND]...", about := "Print help for the subcommand(s)" }

/-! ## Help texts -/

/-- The options of a command. -/
def Verb.options (verb : Verb) : List HelpEntry :=
  [Setting.definitions.entry, Flag.verbose.entry, Setting.runtimePath.entry,
    Setting.placeholder.entry, Flag.extractHidden.entry] ++
    (if verb = .generate then [Setting.output.entry, Setting.header.entry] else []) ++
    [Flag.help.entry]

namespace Topic

/-- What is done. -/
def about : Topic → String
  | program => "Code generator for tag definitions"
  | command verb => verb.entry.about
  | help => helpEntry.about

/-- How it is asked for. -/
def usage : Topic → String
  | program => "tagdef [OPTIONS] <COMMAND>"
  | command verb =>
    "tagdef " ++ verb.entry.typed ++ " [OPTIONS] " ++ Setting.definitions.entry.typed ++
      match verb with
      | .generate => " " ++ Setting.output.entry.typed
      | .check => ""
      | .flatten => " " ++ nameEntry.typed
  | help => "tagdef help " ++ topicEntry.typed

/-- What can be given. -/
def lists : Topic → List HelpList
  | program =>
    [⟨"Commands", [Verb.generate.entry, Verb.check.entry, Verb.flatten.entry, helpEntry]⟩,
      ⟨"Options", [Flag.verbose.entry, Flag.help.entry, Flag.version.entry]⟩]
  | command .flatten => [⟨"Arguments", [nameEntry]⟩, ⟨"Options", Verb.flatten.options⟩]
  | command verb => [⟨"Options", verb.options⟩]
  | help => [⟨"Arguments", [topicEntry]⟩]

/-- The help on a topic. -/
def text (topic : Topic) : String :=
  topic.about ++ "\n\nUsage: " ++ topic.usage ++ "\n\n" ++
    String.intercalate "\n" (topic.lists.map HelpList.text)

end Topic
end CommandLine
end TagSchema
