import TagSchema.Emission.Pass
import TagSchema.Proofs.Bodies

/-!
# Agreement of compiling and reading

A struct is compiled into cache data by one method and read out of a cache file by another one. The
two methods go through the fields on their own, and yet they pass every field in the same way: what
is stored inside the struct is converted as a whole, and a dependency, data or a nested sequence is
passed on element by element. The hooks around them have fixed places. All of this is said of the
code that is printed.

Main results:

- `Cache.writeCompile_ofKind`, `Cache.writeRead_ofKind`: the code for what is passed on element by
  element.
- `Cache.passed`: the code of both methods for a field, by how the field passes.
- `Cache.compiler_agrees_with_reader`: both methods agree, for every struct.
-/

namespace TagSchema
namespace Emission
namespace Cache

/-! ## Code for what is outside the struct -/

/-- The offset of a place in the compiled struct: that of its field, and of its element in an
array. -/
def offset (wire : String) (place : Place) : String :=
  "offset + std::mem::offset_of!(" ++ wire ++ ", " ++ place.ident ++ ")" ++
    if place.indexed then " + i * std::mem::size_of_val(&wire." ++ place.ident ++ "[0])" else ""

/-- The code that compiles a place into a wire form. -/
def compiled (wire : String) (kind : Kind) (place : Place) : String :=
  match kind with
  | .dependency =>
    "wire." ++ place.member ++ " = workload.compile_dependency(&self." ++ place.member ++
      ", tag_index, struct_index, " ++ offset wire place ++ ")?;\n"
  | .data =>
    "wire." ++ place.member ++ " = workload.compile_data(&self." ++ place.member ++
      ", struct_index, " ++ offset wire place ++ ")?;\n"
  | .reflexive _ =>
    "wire." ++ place.member ++ " = workload.compile_reflexive(&mut self." ++ place.member ++
      ", tag_index, struct_index, " ++ offset wire place ++ ")?;\n"

/-- The code that reads a place out of a wire form. -/
def taken (kind : Kind) (place : Place) : String :=
  match kind with
  | .dependency =>
    "value." ++ place.member ++ " = Dependency::from_cache(tag, &wire." ++ place.member ++ ")?;\n"
  | .data => "value." ++ place.member ++ " = tag.read_data(&wire." ++ place.member ++ ")?;\n"
  | .reflexive element =>
    "value." ++ place.member ++ " = tag.read_reflexive(&wire." ++ place.member ++ ", " ++ element ++
      "::parse_cache_file_data)?;\n"

/-- How what is outside the struct is compiled. -/
def Compilation.ofKind : Kind → Compilation
  | .dependency => dependency
  | .data => data
  | .reflexive _ => reflexive

/-- How what is outside the struct is read. -/
def Extraction.ofKind : Kind → Extraction
  | .dependency => dependency
  | .data => data
  | .reflexive element => reflexive element

/-- What is compiled, as it is printed. -/
theorem writeCompile_ofKind (wire : String) (kind : Kind) :
    writeCompile wire (.ofKind kind) = compiled wire kind := by
  funext place
  have hoffset : placeOffset wire place = offset wire place := rfl
  cases kind <;> simp [Compilation.ofKind, writeCompile, compiled, hoffset, Place.own, Place.of_eq,
    ← String.toList_inj]

/-- What is read, as it is printed. -/
theorem writeRead_ofKind (kind : Kind) : writeRead (.ofKind kind) = taken kind := by
  funext place
  cases kind <;> simp [Extraction.ofKind, writeRead, taken, Place.of_eq, ← String.toList_inj]

/-! ## Single fields -/

variable {field : AnnotatedField}

/-- What is outside the struct passes element by element, with the same kind in both methods. -/
theorem steps_of_outside {kind : Kind} (h : Kind.of? field.type = some kind) :
    compileStep field = .each field (.ofKind kind) ∧
      readStep field = .each field (.ofKind kind) := by
  obtain ⟨hinline, hdependency, hdata, helement⟩ := tests_of_kind h
  unfold compileStep readStep
  cases kind with
  | dependency => simp [hinline, hdependency, Compilation.ofKind, Extraction.ofKind]
  | data => simp [hinline, hdependency, hdata, Compilation.ofKind, Extraction.ofKind]
  | reflexive element =>
      rw [helement element rfl]
      simp [hinline, hdependency, hdata, Compilation.ofKind, Extraction.ofKind]

/-- What is stored inside is converted as a whole by both methods. -/
theorem steps_of_inside (h : Kind.of? field.type = none) :
    compileStep field = .whole field (.convert field.type.arrayLength?.isSome) ∧
      readStep field = .whole field (.convert field.type.arrayLength?.isSome) := by
  rw [← isInline_iff] at h
  simp [compileStep, readStep, h]

/-- The code of both methods for a field. What is stored inside the struct is converted as a whole;
all else passes with the same kind in both directions, and in the same loop. -/
inductive Passed (wire : String) (field : AnnotatedField) : String → String → Prop where
  | inside (h : Kind.of? field.type = none) :
      Passed wire field (conversion field "wire" "self") (conversion field "value" "wire")
  | outside {kind : Kind} (h : Kind.of? field.type = some kind) :
      Passed wire field (onEach field (compiled wire kind)) (onEach field (taken kind))

/-- Both methods pass a field by what it stores. -/
theorem passed (wire : String) (field : AnnotatedField) :
    Passed wire field ((compileStep field).render (writeCompile wire))
      ((readStep field).render writeRead) := by
  cases h : Kind.of? field.type with
  | none =>
      obtain ⟨hcompile, hread⟩ := steps_of_inside h
      have hcompiled : writeCompile wire (.convert field.type.arrayLength?.isSome)
          ⟨field.ident, false⟩ = conversion field "wire" "self" :=
        convert_eq_conversion field "wire" "self"
      have htaken : writeRead (.convert field.type.arrayLength?.isSome) ⟨field.ident, false⟩ =
          conversion field "value" "wire" := convert_eq_conversion field "value" "wire"
      rw [hcompile, hread, Step.render_whole, Step.render_whole, hcompiled, htaken]
      exact .inside h
  | some kind =>
      obtain ⟨hcompile, hread⟩ := steps_of_outside h
      rw [hcompile, hread, Step.render_each, Step.render_each, writeCompile_ofKind,
        writeRead_ofKind]
      exact .outside h

/-! ## Agreement -/

/-- The method that compiles a struct and the one that reads it hold some code for each field, and
pass the fields alike. -/
structure Agreement (s : Subject) (compiledCode takenCode : AnnotatedField → String) : Prop where
  /-- Every field is compiled once and in order. One hook is called before every field, and the
  other one after the struct was written, which comes after every field. -/
  compiles : Pass.standardEmit s .cacheFormat = .ok { code := implFor s [method compileSignature (
    called s .preCompile "self, workload, tag_index, struct_index, offset" ++
    ("let mut wire = <" ++ s.wireType byteOrder ++ ">::default();\n") ++
    String.join (s.fields.map compiledCode) ++
    "workload.write_struct(struct_index, offset, &wire);\n" ++
    called s .postCompile "self, workload, tag_index, struct_index, offset" ++
    "Ok(())\n")] }
  /-- Every field is read once and in order. The hook is called after every field was read. -/
  reads : Pass.standardEmit s .readCacheFileData = .ok { code := implFor s [method readSignature (
    ("let wire: " ++ s.wireType byteOrder ++ " = tag.read_struct(pointer)?;\n") ++
    "let mut value = Self::default();\n" ++
    String.join (s.fields.map takenCode) ++
    called s .postCacheParse "&mut value, tag, pointer" ++
    "Ok(value)\n")] }
  /-- A field is read in the way and in the loop in which it is compiled. -/
  passes : ∀ field, Passed (s.wireType byteOrder) field (compiledCode field) (takenCode field)
  /-- What is stored inside the struct is what stores nothing outside. -/
  inside : ∀ field, isInline field = true ↔ Kind.of? field.type = none

/-- The text of the body that compiles a struct. -/
theorem renderAll_compileBody (s : Subject) (write : Compilation → Place → String) :
    Piece.renderAll write (compileBody s) =
      s.hookCall .preCompile "self" compileArguments ++
      ("let mut wire = <" ++ s.wireType byteOrder ++ ">::default();\n") ++
      String.join (s.fields.map fun field => (compileStep field).render write) ++
      "workload.write_struct(struct_index, offset, &wire);\n" ++
      s.hookCall .postCompile "self" compileArguments ++ "Ok(())\n" := by
  simp only [compileBody, Piece.renderAll_append, Piece.renderAll_text, Piece.renderAll_call,
    Piece.renderAll_steps]

/-- The text of the body that reads a struct. -/
theorem renderAll_readBody (s : Subject) :
    Piece.renderAll writeRead (readBody s) =
      ("let wire: " ++ s.wireType byteOrder ++ " = tag.read_struct(pointer)?;\n") ++
      "let mut value = Self::default();\n" ++
      String.join (s.fields.map fun field => (readStep field).render writeRead) ++
      s.hookCall .postCacheParse "&mut value" "tag, pointer" ++ "Ok(value)\n" := by
  simp only [readBody, Piece.renderAll_append, Piece.renderAll_texts, Piece.renderAll_text,
    Piece.renderAll_call, Piece.renderAll_steps]

/-- Compiling agrees with reading, for every struct and whatever its fields, hidden ones
included. -/
theorem compiler_agrees_with_reader (s : Subject) :
    ∃ compiledCode takenCode, Agreement s compiledCode takenCode := by
  have hself : ∀ hook, s.hookCall hook "self" compileArguments =
      called s hook "self, workload, tag_index, struct_index, offset" :=
    fun hook => hookCall_eq_called s hook "self" compileArguments
  have hvalue : s.hookCall .postCacheParse "&mut value" "tag, pointer" =
      called s .postCacheParse "&mut value, tag, pointer" :=
    hookCall_eq_called s .postCacheParse "&mut value" "tag, pointer"
  refine ⟨fun field => (compileStep field).render (writeCompile (s.wireType byteOrder)),
    fun field => (readStep field).render writeRead, ?_, ?_, passed _, fun field => isInline_iff⟩
  · rw [← hself, ← hself, ← renderAll_compileBody]
    rfl
  · rw [← hvalue, ← renderAll_readBody]
    rfl

end Cache
end Emission
end TagSchema
