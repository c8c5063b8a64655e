/-!
# Artifacts

The texts of a run: one with the declarations, and one for each concern of the generated code.
-/

namespace TagSchema

/-- The concerns of the generated code, in the order in which they are emitted. -/
inductive Artifact where
  | cacheDeformat
  | cacheFormat
  | saveHekData
  | readCacheFileData
  | readHekData
  | readHekFile
  | refactorReference
  | structValue
  | checkBrokenEnums
  | checkInvalidReferences
  | checkInvalidRanges
  | checkInvalidIndices
  | normalize
  | compare
deriving DecidableEq, Repr

namespace Artifact

/-- All concerns. -/
def all : List Artifact := [
  cacheDeformat, cacheFormat, saveHekData, readCacheFileData, readHekData, readHekFile,
  refactorReference, structValue, checkBrokenEnums, checkInvalidReferences, checkInvalidRanges,
  checkInvalidIndices, normalize, compare]

/-- The module of the generated code that holds a concern. -/
def moduleName : Artifact → String
  | cacheDeformat => "cache_deformat"
  | cacheFormat => "cache_format"
  | saveHekData => "save_hek_data"
  | readCacheFileData => "read_cache_file_data"
  | readHekData => "read_hek_data"
  | readHekFile => "read_hek_file"
  | refactorReference => "refactor_reference"
  | structValue => "struct_value"
  | checkBrokenEnums => "check_broken_enums"
  | checkInvalidReferences => "check_invalid_references"
  | checkInvalidRanges => "check_invalid_ranges"
  | checkInvalidIndices => "check_invalid_indices"
  | normalize => "normalize"
  | compare => "compare"

/-- The file that holds a concern. -/
def fileName (artifact : Artifact) : String :=
  artifact.moduleName ++ ".rs"

/-- The concern with a given module. -/
def ofModuleName? (name : String) : Option Artifact :=
  all.find? (·.moduleName == name)

end Artifact

/-- One text of a run: the declarations or a concern. -/
inductive Target where
  | declarations
  | concern (artifact : Artifact)
deriving DecidableEq, Repr

namespace Target

/-- All texts of a run, in the order in which their files are made. -/
def all : List Target :=
  .declarations :: Artifact.all.map .concern

/-- The file that holds a text. -/
def fileName : Target → String
  | declarations => "mod.rs"
  | concern artifact => artifact.fileName

end Target
end TagSchema
