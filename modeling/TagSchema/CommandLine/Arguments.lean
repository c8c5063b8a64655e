/-!
# Arguments of the command line

The arguments are read from left to right. Options have long names and some have short ones; a value
is attached to its option or follows it. Most options may be given once. Reading stops at the first
argument that is wrong, and at a request for help or for the version.
-/

namespace TagSchema
namespace CommandLine

/-- Options that take no value. -/
inductive Flag where
  | verbose
  | extractHidden
  | help
  | version
deriving DecidableEq, Repr

/-- Options that take a value. -/
inductive Setting where
  | definitions
  | output
  | header
  | runtimePath
  | placeholder
deriving DecidableEq, Repr

/-- The commands. -/
inductive Verb where
  | generate
  | check
  | flatten
deriving DecidableEq, Repr

/-- The verb that a word names. -/
def Verb.ofWord? (word : String) : Option Verb :=
  if word = "generate" then some .generate
  else if word = "check" then some .check
  else if word = "flatten" then some .flatten
  else none

/-- An option, with or without a value. -/
inductive Choice where
  | flag (flag : Flag)
  | setting (setting : Setting)

/-- Where options are read: before the verb, or after it. -/
abbrev Stage := Option Verb

/-- The option with a long name. -/
def longOption? (stage : Stage) (name : String) : Option Choice :=
  match name, stage with
  | "verbose", _ => some (.flag .verbose)
  | "help", _ => some (.flag .help)
  | "version", none => some (.flag .version)
  | "definitions", some _ => some (.setting .definitions)
  | "runtime-path", some _ => some (.setting .runtimePath)
  | "placeholder", some _ => some (.setting .placeholder)
  | "extract-hidden", some _ => some (.flag .extractHidden)
  | "output", some .generate => some (.setting .output)
  | "header", some .generate => some (.setting .header)
  | _, _ => none

/-- The option with a short name. -/
def shortOption? (stage : Stage) (name : Char) : Option Choice :=
  match name, stage with
  | 'v', _ => some (.flag .verbose)
  | 'h', _ => some (.flag .help)
  | 'V', none => some (.flag .version)
  | 'd', some _ => some (.setting .definitions)
  | 'o', some .generate => some (.setting .output)
  | _, _ => none

/-- What help is asked for. -/
inductive Topic where
  | program
  | command (verb : Verb)
  | help
deriving DecidableEq, Repr

/-- What help is on when it is asked for at a stage. -/
def Topic.ofStage : Stage → Topic
  | none => program
  | some verb => .command verb

/-- Why reading stops before the end. -/
inductive Stop where
  | wrong
  | help (topic : Topic)
  | version
deriving DecidableEq, Repr

/-- What was given so far at one stage. -/
structure Given where
  flags : List Flag := []
  settings : List (Setting × String) := []
  names : List String := []
deriving DecidableEq, Repr

namespace Given

/-- Takes a flag; a flag that is given twice is wrong. -/
def addFlag (stage : Stage) (given : Given) (flag : Flag) : Except Stop Given :=
  match flag with
  | .help => .error (.help (.ofStage stage))
  | .version => .error .version
  | _ =>
    if given.flags.contains flag then .error .wrong
    else .ok { given with flags := given.flags ++ [flag] }

/-- A value that a setting does not take: paths are not empty. -/
def refuses (setting : Setting) (value : String) : Bool :=
  (setting = .definitions || setting = .output) && value.isEmpty

/-- Takes a setting; only placeholders may be given more than once. -/
def addSetting (given : Given) (setting : Setting) (value : String) : Except Stop Given :=
  if refuses setting value then .error .wrong
  else if setting ≠ .placeholder && given.settings.any (·.1 = setting) then .error .wrong
  else .ok { given with settings := given.settings ++ [(setting, value)] }

/-- Takes an argument that is no option: only one verb takes one, the name of a struct. -/
def addName (stage : Stage) (given : Given) (name : String) : Except Stop Given :=
  if stage = some .flatten && given.names.isEmpty then .ok { given with names := [name] }
  else .error .wrong

/-- The value of a setting. -/
def setting? (given : Given) (setting : Setting) : Option String :=
  given.settings.lookup setting

end Given

/-- Takes a cluster of short options. A setting takes the rest of the cluster as its value; without a
rest its value is the next argument. -/
def readCluster (stage : Stage) (given : Given) :
    List Char → Except Stop (Given × Option Setting)
  | [] => .ok (given, none)
  | name :: rest =>
    match shortOption? stage name with
    | none => .error .wrong
    | some (.flag flag) => do readCluster stage (← given.addFlag stage flag) rest
    | some (.setting setting) =>
      match rest with
      | [] => .ok (given, some setting)
      | '=' :: value => do return (← given.addSetting setting (String.ofList value), none)
      | value => do return (← given.addSetting setting (String.ofList value), none)

/-- Takes a long option, with a value after an equals sign if there is one. -/
def readLong (stage : Stage) (given : Given) (text : List Char) :
    Except Stop (Given × Option Setting) :=
  let name := String.ofList (text.takeWhile (· ≠ '='))
  let attached := text.dropWhile (· ≠ '=')
  match longOption? stage name, attached with
  | none, _ => .error .wrong
  | some (.flag _), _ :: _ => .error .wrong
  | some (.flag flag), [] => do return (← given.addFlag stage flag, none)
  | some (.setting setting), [] => .ok (given, some setting)
  | some (.setting setting), _ :: value => do
    return (← given.addSetting setting (String.ofList value), none)

/-- Reads the arguments after the verb. A setting that waits for its value takes the next argument,
unless that is an option. After two hyphens every argument is a name. -/
def readArguments (stage : Stage) (given : Given) (waiting : Option Setting) :
    List String → Except Stop Given
  | [] => if waiting.isSome then .error .wrong else .ok given
  | argument :: rest =>
    match argument.toList with
    | ['-', '-'] =>
      if waiting.isSome then .error .wrong else rest.foldlM (Given.addName stage) given
    | '-' :: '-' :: text =>
      if waiting.isSome then .error .wrong
      else do
        let (given, waiting) ← readLong stage given text
        readArguments stage given waiting rest
    | '-' :: name :: text =>
      if waiting.isSome then .error .wrong
      else do
        let (given, waiting) ← readCluster stage given (name :: text)
        readArguments stage given waiting rest
    | _ =>
      match waiting with
      | some setting => do
        readArguments stage (← given.addSetting setting argument) none rest
      | none => do readArguments stage (← given.addName stage argument) none rest

/-- Settings that all commands share. -/
structure Common where
  definitions : String
  runtimePath : Option String
  placeholders : List String
  extractHidden : Bool
deriving DecidableEq, Repr

/-- What the command line asks for. -/
inductive Command where
  | generate (common : Common) (output : String) (header : Option String)
  | check (common : Common)
  | flatten (common : Common) (name : String)
deriving DecidableEq, Repr

namespace Command

/-- The path that a command reads definitions from. -/
def definitions : Command → String
  | generate common _ _ => common.definitions
  | check common => common.definitions
  | flatten common _ => common.definitions

/-- The path that a command writes code to. -/
def output? : Command → Option String
  | generate _ output _ => some output
  | _ => none

end Command

/-- The settings that all commands share. -/
def Given.common? (given : Given) : Option Common :=
  (given.setting? .definitions).map fun definitions =>
    { definitions := definitions
      runtimePath := given.setting? .runtimePath
      placeholders := (given.settings.filter (·.1 = .placeholder)).map (·.2)
      extractHidden := given.flags.contains .extractHidden }

/-- The command of a verb with what was given for it. -/
def Given.command (given : Given) (verb : Verb) : Except Stop Command :=
  match verb, given.common?, given.names with
  | .generate, some common, [] =>
    match given.setting? .output with
    | some output => .ok (.generate common output (given.setting? .header))
    | none => .error .wrong
  | .check, some common, [] => .ok (.check common)
  | .flatten, some common, [name] => .ok (.flatten common name)
  | _, _, _ => .error .wrong

/-- Help on nothing or on one command can be had, all else is wrong. -/
def helpOn : List String → Stop
  | [] => .help .program
  | [topic] =>
    if topic = "help" then .help .help
    else
      match Verb.ofWord? topic with
      | some verb => .help (.command verb)
      | none => .wrong
  | _ => .wrong

/-- Reads the arguments before the verb and then those after it. -/
def readFrom (given : Given) : List String → Except Stop Command
  | [] => .error .wrong
  | argument :: rest =>
    match Verb.ofWord? argument with
    | some verb => do
      let given ← readArguments (some verb) {} none rest
      given.command verb
    | none =>
      if argument = "help" then .error (helpOn rest)
      else
        match argument.toList with
        | ['-', '-'] => .error .wrong
        | '-' :: '-' :: text => do readFrom (← readLong none given text).1 rest
        | '-' :: name :: text => do readFrom (← readCluster none given (name :: text)).1 rest
        | _ => .error .wrong

/-- Reads the arguments of the command line. -/
def read (arguments : List String) : Except Stop Command :=
  readFrom {} arguments

end CommandLine
end TagSchema
