import TagSchema.Emission.Step

/-!
# Cache data

Three concerns deal with the form that structs have in cache files: undoing what only cache data
carries, compiling a struct into cache data, and reading a struct out of a cache file.
-/

namespace TagSchema
namespace Emission
namespace Cache

/-! ## Undoing cache-only transformations -/

/-- The body of the method: every nested sequence, then the hook. -/
def deformatBody (s : Subject) : List (Piece Unit) :=
  s.reflexives.map (fun field => .step (.each field ())) ++
    Piece.call s .postCacheDeformat "self" "" ++
    [.text "Ok(())\n"]

/-- The element of a nested sequence is treated like the struct. -/
def writeDeformat (_ : Unit) (place : Place) : String :=
  descend place "iter_mut()" "element.cache_deformat_data()?;"

/-- The code that undoes cache-only transformations. -/
def deformat (s : Subject) : String :=
  implFor s [method "pub fn cache_deformat_data(&mut self) -> Result<(), TagError>"
    (Piece.renderAll writeDeformat (deformatBody s))]

/-! ## Compiling -/

/-- What the hooks around compiling are given. -/
def compileArguments : String := "workload, tag_index, struct_index, offset"

/-- The byte order of cache data. -/
def byteOrder : String := "LittleEndian"

/-- The offset of a place inside the compiled struct. -/
def placeOffset (wire : String) (place : Place) : String :=
  "offset + std::mem::offset_of!(" ++ wire ++ ", " ++ place.ident ++ ")" ++
    (if place.indexed then " + i * std::mem::size_of_val(&wire." ++ place.ident ++ "[0])" else "")

/-- How a field passes into the compiled form. -/
inductive Compilation where
  | convert (isArray : Bool)
  | dependency
  | data
  | reflexive
deriving DecidableEq, Repr

/-- The step that compiles a field: what is stored inside is converted as a whole, all else element by
element. -/
def compileStep (field : AnnotatedField) : Step Compilation :=
  if isInline field then
    .whole field (.convert field.type.arrayLength?.isSome)
  else
    .each field (
      if field.type.isDependency then .dependency
      else if field.type.isData then .data
      else .reflexive)

/-- The body of the method that compiles a struct. -/
def compileBody (s : Subject) : List (Piece Compilation) :=
  Piece.call s .preCompile "self" compileArguments ++
    [.text ("let mut wire = <" ++ s.wireType byteOrder ++ ">::default();\n")] ++
    s.fields.map (fun field => .step (compileStep field)) ++
    [.text "workload.write_struct(struct_index, offset, &wire);\n"] ++
    Piece.call s .postCompile "self" compileArguments ++
    [.text "Ok(())\n"]

/-- How a field is compiled. -/
def writeCompile (wire : String) (action : Compilation) (place : Place) : String :=
  let start := place.of "wire" ++ " = workload."
  let offset := placeOffset wire place
  match action with
  | .convert isArray => convert isArray place "wire" "self"
  | .dependency =>
    start ++ "compile_dependency(&" ++ place.own ++ ", tag_index, struct_index, " ++ offset ++ ")?;\n"
  | .data => start ++ "compile_data(&" ++ place.own ++ ", struct_index, " ++ offset ++ ")?;\n"
  | .reflexive =>
    start ++ "compile_reflexive(&mut " ++ place.own ++ ", tag_index, struct_index, " ++ offset ++
      ")?;\n"

/-- The signature of the method that compiles a struct. -/
def compileSignature : String :=
  "pub fn compile(&mut self, workload: &mut BuildWorkload, tag_index: usize, " ++
    "struct_index: usize, offset: usize) -> Result<(), TagError>"

/-- The code that compiles a struct into cache data. -/
def compile (s : Subject) : String :=
  implFor s [method compileSignature
    (Piece.renderAll (writeCompile (s.wireType byteOrder)) (compileBody s))]

/-! ## Reading -/

/-- How a field is taken out of the compiled form. -/
inductive Extraction where
  | convert (isArray : Bool)
  | dependency
  | data
  | reflexive (ident : String)
deriving DecidableEq, Repr

/-- The step that reads a field: what is stored inside is converted as a whole, all else element by
element. -/
def readStep (field : AnnotatedField) : Step Extraction :=
  if isInline field then
    .whole field (.convert field.type.arrayLength?.isSome)
  else
    .each field (
      if field.type.isDependency then .dependency
      else if field.type.isData then .data
      else .reflexive ((field.type.reflexive?.map (·.2)).getD ""))

/-- The body of the method that reads a struct out of a cache file. -/
def readBody (s : Subject) : List (Piece Extraction) :=
  [.text ("let wire: " ++ s.wireType byteOrder ++ " = tag.read_struct(pointer)?;\n"),
    .text "let mut value = Self::default();\n"] ++
    s.fields.map (fun field => .step (readStep field)) ++
    Piece.call s .postCacheParse "&mut value" "tag, pointer" ++
    [.text "Ok(value)\n"]

/-- How a field is read out of a cache file. -/
def writeRead (action : Extraction) (place : Place) : String :=
  let start := place.of "value" ++ " = "
  match action with
  | .convert isArray => convert isArray place "value" "wire"
  | .dependency => start ++ "Dependency::from_cache(tag, &" ++ place.of "wire" ++ ")?;\n"
  | .data => start ++ "tag.read_data(&" ++ place.of "wire" ++ ")?;\n"
  | .reflexive ident =>
    start ++ "tag.read_reflexive(&" ++ place.of "wire" ++ ", " ++ ident ++
      "::parse_cache_file_data)?;\n"

/-- The signature of the method that reads a struct out of a cache file. -/
def readSignature : String :=
  "pub fn parse_cache_file_data(tag: &Tag, pointer: Option<Pointer>) -> Result<Self, TagError>"

/-- The code that reads a struct out of a cache file. -/
def read (s : Subject) : String :=
  implFor s [method readSignature (Piece.renderAll writeRead (readBody s))]

end Cache
end Emission
end TagSchema
