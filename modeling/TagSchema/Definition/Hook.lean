/-!
# Hooks and capabilities

A struct may ask the generated code to call it at fixed points of its life. Its capabilities are the
hooks it asks for and two switches that apply to the struct as a whole.
-/

namespace TagSchema

/-- The points at which generated code may call a struct. -/
inductive Hook where
  | postprocessHekData
  | postCacheDeformat
  | postCacheParse
  | preCompile
  | postCompile
deriving DecidableEq, Repr

namespace Hook

/-- All hooks, in the order in which their methods are declared. -/
def all : List Hook :=
  [postprocessHekData, postCacheDeformat, postCacheParse, preCompile, postCompile]

/-- The method that a hook calls. -/
def methodName : Hook → String
  | postprocessHekData => "postprocess_hek_data"
  | postCacheDeformat => "post_cache_deformat"
  | postCacheParse => "post_cache_parse"
  | preCompile => "pre_compile"
  | postCompile => "post_compile"

/-- What the method of a hook takes besides the struct itself. -/
def parameters : Hook → String
  | postprocessHekData => ""
  | postCacheDeformat => ""
  | postCacheParse => ", tag: &Tag, pointer: Option<Pointer>"
  | preCompile | postCompile =>
    ", workload: &mut BuildWorkload, tag_index: usize, struct_index: usize, offset: usize"

/-- The declaration of the method of a hook. -/
def signature (hook : Hook) : String :=
  "fn " ++ hook.methodName ++ "(&mut self" ++ hook.parameters ++ ");"

/-- The hook with a given method. -/
def ofMethodName? (name : String) : Option Hook :=
  all.find? (·.methodName == name)

end Hook

/-- What a struct asks of the generated code. -/
structure Capabilities where
  hooks : List Hook := []
  normalize : Bool := false
  readOnly : Bool := false
deriving DecidableEq, Repr

namespace Capabilities

/-- The struct asks for a hook. -/
def has (capabilities : Capabilities) (hook : Hook) : Bool :=
  capabilities.hooks.contains hook

/-- The hooks that the struct asks for, in declaration order and each once. -/
def declaredHooks (capabilities : Capabilities) : List Hook :=
  Hook.all.filter capabilities.has

end Capabilities
end TagSchema
