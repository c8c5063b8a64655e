import TagSchema.Document.Value
import TagSchema.Fault
import TagSchema.Storage.Tree

/-!
# Failures

Everything that can stop the compiler: a fault of the definitions, a document that cannot be read as
definitions, or a file operation that fails.
-/

namespace TagSchema

/-- Why the compiler stops. -/
inductive Failure where
  | schema (fault : SchemaError)
  | parse (path : String) (fault : Document.Fault)
  | file (error : Storage.FileError)
  | walk (path : String) (error : Storage.FileError)
deriving DecidableEq, Repr

/-- The message of a failure. -/
def Failure.message : Failure → String
  | schema fault => fault.message
  | parse path _ => "failed to parse definitions in " ++ path
  | file error => error.message
  | walk path error => "IO error for operation on " ++ path ++ ": " ++ error.message

end TagSchema
