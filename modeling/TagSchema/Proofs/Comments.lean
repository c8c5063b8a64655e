import TagSchema.Proofs.Concatenation
import TagSchema.Proofs.Inheritance
import TagSchema.Proofs.Rows

/-!
# Headers and comments

Two kinds of free text reach the generated code: the header of a run and the comments of fields.
Whatever they hold, they stay comments. The rows above the code of each text are the lines of the
header, each as a comment; the rows above a member are the lines of its comment, each as
documentation. Comments show nowhere else.

Main results:

- `Config.rows_headerText_append`: the rows of a header.
- `Emission.Value.closedRows_memberText`: the rows of a member.
- `Emission.Value.rows_declaration`: the rows of the declaration of a struct.
- `Emission.Pass.code_uncommented`: no concern looks at comments.
- `Generator.comments_stay_comments`: headers and comments as they stand in generated code.
-/

namespace TagSchema

open Text Emission

/-! ## Headers -/

/-- A row that is a comment. -/
def commentRow (line : List Char) : List Char :=
  "// ".toList ++ line

/-- What the code of a text starts with, behind the header. -/
def Target.openingMark : Target → String
  | .declarations => "mod "
  | .concern _ => "#![allow"

/-- A text starts with a header: with one comment for each line of the header, then an empty row,
then code. -/
def StartsWithHeader (header : String) (target : Target) (text : String) : Prop :=
  ∃ lines first code, LinesOf header.toList lines ∧
    rows text = lines.map commentRow ++ [] :: first :: code ∧ target.openingMark.toList <+: first

/-- Lines that are written as comments become rows. -/
theorem rows_comments_append {lines : List String} (h : ∀ line ∈ lines, '\n' ∉ line.toList)
    (rest : String) :
    rows (String.join (lines.map fun line => "// " ++ line ++ "\n") ++ rest) =
      (lines.map String.toList).map commentRow ++ rows rest := by
  induction lines with
  | nil => simp [String.join_nil]
  | cons line lines ih =>
      rw [List.forall_mem_cons] at h
      have hline : '\n' ∉ ("// " ++ line).toList := by
        simpa using h.1
      rw [List.map_cons, String.join_cons, String.append_assoc, rows_newline, rows_of_not_mem hline,
        ih h.2, String.toList_append]
      rfl

namespace Config

variable (config : Config)

/-- The rows of a header: its lines as comments, and an empty row. -/
theorem rows_headerText_append {header : String} (h : config.header = some header) (rest : String) :
    rows (config.headerText ++ rest) =
      ((lines header).map String.toList).map commentRow ++ [] :: rows rest := by
  have hlines : ∀ line ∈ lines header, '\n' ∉ line.toList := by
    intro line hline
    exact (linesOf_lines header).newline_not_mem (List.mem_map_of_mem hline)
  have hempty : rows ("\n" ++ rest) = [] :: rows rest := by
    have hrows := rows_newline "" rest
    rwa [String.empty_append] at hrows
  rw [headerText, headerLines, h, String.append_assoc, rows_comments_append hlines, hempty]

/-- The first row behind the header is code. -/
theorem exists_row_opening (target : Target) (rest : String) :
    ∃ first code, rows (config.opening target ++ rest) = first :: code ∧
      target.openingMark.toList <+: first := by
  cases target with
  | declarations =>
      obtain ⟨more, hmore⟩ : ∃ more,
          config.opening .declarations = "mod cache_deformat;" ++ "\n" ++ more := by
        refine ⟨String.join (Artifact.all.tail.map fun artifact =>
          "mod " ++ artifact.moduleName ++ ";\n") ++ ("\nuse " ++ config.runtimePath ++
            "::prelude::*;\n\n"), ?_⟩
        simp only [opening, Artifact.all, List.map_cons, String.join_cons, List.tail_cons,
          String.append_assoc]
        rfl
      rw [hmore, String.append_assoc, rows_newline, rows_of_not_mem (by decide)]
      exact ⟨_, _, rfl, by decide⟩
  | concern artifact =>
      have hopening : config.opening (.concern artifact) =
          "#![allow(unused_mut, unused_variables, clippy::all)]" ++ "\n" ++ "\nuse super::*;\n\n" :=
        rfl
      have hmark : "#![allow".toList <+:
          "#![allow(unused_mut, unused_variables, clippy::all)]".toList := by
        decide
      rw [hopening, String.append_assoc, rows_newline, rows_of_not_mem (by decide)]
      exact ⟨_, _, rfl, hmark⟩

end Config

/-- Every text of a run starts with the header of the run. -/
theorem Generator.startsWithHeader_of_run {g : Generator} {header : String}
    (hheader : g.config.header = some header) {order : List g.StructId}
    {generated : Generated g.catalog.toTables} (h : g.run order = .ok generated) (target : Target) :
    StartsWithHeader header target (generated.text target) := by
  have hemitted := exists_emitted_of_run h
  choose! emitted hemitted using hemitted
  rw [run_of_emitted hemitted] at h
  cases h
  rw [text_outcome, Config.preamble, String.append_assoc]
  generalize String.join _ = rest
  rcases g.config.exists_row_opening target rest with ⟨first, code, hrows, hmark⟩
  refine ⟨_, first, code, linesOf_lines header, ?_, hmark⟩
  rw [g.config.rows_headerText_append hheader, hrows]

/-! ## Comments of fields -/

namespace Emission

/-- A row that documents a member: a line of its comment, without the blanks at the end. -/
def docRow (line : List Char) : List Char :=
  "    /// ".toList ++ (trimEnd (String.ofList line)).toList

/-- The row of documentation for a line, without blanks at its end. -/
theorem docRow_toList (line : String) :
    docRow line.toList = ("    /// " ++ trimEnd line).toList := by
  unfold docRow
  rw [String.ofList_toList, String.toList_append]

namespace Value

variable (field : AnnotatedField)

/-- The rows that document a member. -/
def docRows : List (List Char) :=
  match field.definition.comment with
  | some comment => ((lines comment).map String.toList).map docRow
  | none => []

/-- The rows that declare a member, behind its documentation. -/
def memberRows : List (List Char) :=
  closedRows (indent 1 ("pub " ++ field.ident ++ ": " ++ field.type.spelling ++ ",\n"))

/-- A line of a comment is written as one row, which the indentation of the member does not
break. -/
theorem closedRows_indent_doc {line : String} (h : '\n' ∉ line.toList) :
    closedRows (indent 1 ("/// " ++ trimEnd line ++ "\n")) = [docRow line.toList] := by
  have hreturn := getLast?_trimEnd_ne line
  have hline : '\n' ∉ ("/// " ++ trimEnd line).toList := by
    rw [String.toList_append, List.mem_append, not_or]
    exact ⟨by decide, fun hmem => h (mem_of_mem_trimEnd hmem)⟩
  -- a line with nothing but blanks still ends with the blank of the mark
  have hend : ("/// " ++ trimEnd line).toList.getLast? ≠ some '\r' := by
    rw [String.toList_append, List.getLast?_append]
    cases hlast : (trimEnd line).toList.getLast? with
    | none => decide
    | some c => rwa [hlast] at hreturn
  rw [closedRows_indent, linesFrom_line hline hend, List.map_singleton,
    indentedRow_of_ne_nil 1 (by simp), docRow_toList, String.toList_append, String.toList_append]
  rfl

example : (lines "one \r\n\n two\r").map (fun line => docRow line.toList) =
    ["    /// one".toList, "    /// ".toList, "    ///  two".toList] := by
  decide

/-- Every line of a comment is ended. -/
theorem complete_commentLines {text : String} (h : text ∈ commentLines field) : Complete text := by
  unfold commentLines at h
  split at h
  · rcases List.mem_map.1 h with ⟨line, _, rfl⟩
    exact Complete.line _
  · cases h

/-- The indented lines of a comment are its rows of documentation. -/
theorem closedRows_commentLines :
    ((commentLines field).map (indent 1)).flatMap closedRows = docRows field := by
  unfold commentLines docRows
  cases field.definition.comment with
  | none => rfl
  | some comment =>
      have hline : ∀ line ∈ lines comment,
          closedRows (indent 1 ("/// " ++ trimEnd line ++ "\n")) = [docRow line.toList] := by
        intro line hline
        exact closedRows_indent_doc
          ((linesOf_lines comment).newline_not_mem (List.mem_map_of_mem hline))
      simp only [List.map_map, List.flatMap_map]
      rw [List.map_eq_flatMap]
      exact List.flatMap_congr hline

/-- The rows of a member: its documentation, and right below it the member. -/
theorem closedRows_memberText :
    closedRows (memberText field) = docRows field ++ memberRows field := by
  have hmember : member field = String.join (commentLines field) ++
      ("pub " ++ field.ident ++ ": " ++ field.type.spelling ++ ",\n") := by
    simp only [member, String.append_assoc]
  have hcomplete : ∀ text ∈ commentLines field, Complete text :=
    fun _ => complete_commentLines field
  have hindented : ∀ text ∈ (commentLines field).map (indent 1), Complete text := by
    simp [complete_indent]
  rw [memberText, hmember, indent_append (Complete.join hcomplete), indent_join 1 hcomplete,
    closedRows_append (Complete.join hindented), closedRows_join hindented, closedRows_commentLines,
    memberRows]

/-- Below its documentation a member starts with its visibility, whatever its name is. -/
theorem exists_memberRows :
    ∃ first more, memberRows field = first :: more ∧ "    pub ".toList <+: first := by
  have hlines := linesOf_linesFrom_nil
    ("pub ".toList ++ (field.ident ++ (": " ++ (field.type.spelling ++ ",\n"))).toList)
  rcases hlines.exists_first (by decide) (by decide) (by decide) with ⟨first, more, hcut, rest, rfl⟩
  refine ⟨indentedRow 1 ("pub ".toList ++ rest), more.map (indentedRow 1), ?_, rest, ?_⟩
  · rw [memberRows, closedRows_indent, String.append_assoc, String.append_assoc,
      String.append_assoc, String.toList_append, hcut, List.map_cons]
  · rw [indentedRow_of_ne_nil 1 (by simp)]
    rfl

/-- The rows of a declaration above its members. -/
def openingRows (s : Subject) : List (List Char) :=
  closedRows ("#[derive(Debug, Clone)]\npub struct " ++ s.ident ++ " \x7b\n")

/-- The rows of a declaration below its members. -/
def closingRows (s : Subject) : List (List Char) :=
  rows ("\x7d\n\nimpl Default for " ++ s.ident ++
    " \x7b\n    fn default() -> Self \x7b\n        Self \x7b\n" ++
    String.join (s.fields.map initializerText) ++ "        \x7d\n    \x7d\n\x7d\n\n")

/-- The rows of a declaration. -/
theorem rows_declaration (s : Subject) :
    rows (declaration s) =
      openingRows s ++ s.fields.flatMap (fun field => docRows field ++ memberRows field) ++
        closingRows s := by
  have hopening : Complete ("#[derive(Debug, Clone)]\npub struct " ++ s.ident ++ " \x7b\n") := by
    have hline := Complete.line ("#[derive(Debug, Clone)]\npub struct " ++ s.ident ++ " \x7b")
    rwa [String.append_assoc] at hline
  have hmembers : ∀ text ∈ s.fields.map memberText, Complete text := by
    simp [memberText, complete_indent]
  have hframe : declaration s =
      "#[derive(Debug, Clone)]\npub struct " ++ s.ident ++ " \x7b\n" ++
        (String.join (s.fields.map memberText) ++
          ("\x7d\n\nimpl Default for " ++ s.ident ++
            " \x7b\n    fn default() -> Self \x7b\n        Self \x7b\n" ++
            String.join (s.fields.map initializerText) ++ "        \x7d\n    \x7d\n\x7d\n\n")) := by
    rw [declaration_eq_frame]
    unfold frame
    simp only [String.append_assoc]
  rw [hframe, rows_append hopening, rows_append (Complete.join hmembers), closedRows_join hmembers,
    List.flatMap_map, ← List.append_assoc]
  unfold openingRows closingRows
  simp only [closedRows_memberText]

end Value

end Emission

/-! ## Code without comments -/

/-- A field without its comment. -/
def AnnotatedField.uncommented (field : AnnotatedField) : AnnotatedField :=
  { field with definition := { field.definition with comment := none } }

namespace Emission

variable (s : Subject)

/-- A struct without the comments of its fields. -/
def Subject.uncommented : Subject :=
  { s with fields := s.fields.map AnnotatedField.uncommented }

theorem Value.titleFault?_uncommented : titleFault? s.uncommented = titleFault? s := by
  simp only [titleFault?, Subject.uncommented, List.any_map]
  rfl

theorem Value.view_uncommented : view s.uncommented = view s := by
  simp only [view, entries, Subject.uncommented, List.filter_map, List.map_map]
  rfl

/-- Without comments a declaration has the same rows but for the documentation. -/
theorem Value.rows_declaration_uncommented :
    rows (declaration s.uncommented) =
      openingRows s ++ s.fields.flatMap memberRows ++ closingRows s := by
  have hinitializers : s.uncommented.fields.map initializerText = s.fields.map initializerText := by
    rw [Subject.uncommented, List.map_map]
    rfl
  have hclosing : closingRows s.uncommented = closingRows s := by
    unfold closingRows
    rw [hinitializers, Subject.uncommented]
  have hopening : openingRows s.uncommented = openingRows s := rfl
  have hmembers : s.uncommented.fields.flatMap (fun field => docRows field ++ memberRows field) =
      s.fields.flatMap memberRows := by
    rw [Subject.uncommented, List.flatMap_map]
    apply List.flatMap_congr
    intro field _
    have hdoc : docRows field.uncommented = [] := rfl
    have hmember : memberRows field.uncommented = memberRows field := rfl
    rw [hdoc, hmember, List.nil_append]
  rw [rows_declaration, hclosing, hopening, hmembers]

namespace Validation

theorem sequence?_uncommented (name : String) :
    sequence? s.uncommented name = (sequence? s name).map AnnotatedField.uncommented := by
  rw [sequence?, Subject.uncommented, List.find?_map]
  rfl

theorem indexStep?_uncommented (field : AnnotatedField) :
    indexStep? s.uncommented field.uncommented = indexStep? s field := by
  have hindex :
      field.uncommented.definition.indexOf.filter (fun _ => field.uncommented.type.isIndex) =
      field.definition.indexOf.filter (fun _ => field.type.isIndex) := rfl
  rw [indexStep?, indexStep?, hindex]
  split
  · rw [sequence?_uncommented]
    cases sequence? s _ with
    | none => rfl
    | some sequence => rfl
  · rfl

/-- The checks of indices have nothing of the comments, and the same faults. -/
theorem indices_uncommented : indices s.uncommented = indices s := by
  have hsteps :
      s.uncommented.fields.mapM (indexStep? s.uncommented) = s.fields.mapM (indexStep? s) := by
    rw [Subject.uncommented, List.mapM_map]
    exact Stepwise.mapM_congr fun field _ => indexStep?_uncommented s field
  rw [indices, indexBody, hsteps]
  rfl

theorem domains_uncommented : domains s.uncommented = domains s := by
  have hsteps : s.uncommented.fields.mapM (domainStep? s.uncommented.name) =
      s.fields.mapM (domainStep? s.name) := by
    rw [Subject.uncommented, List.mapM_map]
    exact Stepwise.mapM_congr fun field _ => rfl
  rw [domains, domainBody, hsteps]
  rfl

end Validation

/-- No concern looks at comments. -/
theorem Pass.code_uncommented (artifact : Artifact) :
    (standardEmit s.uncommented artifact).map Emitted.code =
      (standardEmit s artifact).map Emitted.code := by
  cases artifact with
  | cacheDeformat =>
      simp only [standardEmit, Cache.deformat, Cache.deformatBody, Subject.reflexives,
        Subject.uncommented, List.filter_map, List.map_map]
      rfl
  | cacheFormat =>
      simp only [standardEmit, Cache.compile, Cache.compileBody, Subject.uncommented, List.map_map]
      rfl
  | saveHekData =>
      simp only [standardEmit, Authoring.write, Authoring.baseWriteBody,
        Authoring.trailingWriteBody, Authoring.writtenFields, Subject.uncommented, List.filter_map,
        List.filterMap_map, List.map_map]
      rfl
  | readCacheFileData =>
      simp only [standardEmit, Cache.read, Cache.readBody, Subject.uncommented, List.map_map]
      rfl
  | readHekData =>
      simp only [standardEmit, Authoring.read, Authoring.baseReadBody, Authoring.trailingReadBody,
        Subject.uncommented, List.flatMap_map, List.filterMap_map]
      rfl
  | readHekFile => rfl
  | refactorReference =>
      simp only [standardEmit, Revision.redirect, Revision.redirectBody, Subject.uncommented,
        List.filterMap_map]
      rfl
  | structValue =>
      simp only [standardEmit, Value.titleFault?_uncommented, Value.view_uncommented]
      cases Value.titleFault? s with
      | none =>
          -- the declarations differ, so only the code is compared
          change (Except.ok (Value.view s) : Except SchemaError String) = Except.ok (Value.view s)
          rfl
      | some fault => rfl
  | checkBrokenEnums => rw [standardEmit, standardEmit, Validation.domains_uncommented]
  | checkInvalidReferences =>
      simp only [standardEmit, Validation.references, Validation.referenceBody, Subject.uncommented,
        List.filterMap_map]
      rfl
  | checkInvalidRanges =>
      simp only [standardEmit, Validation.ranges, Validation.rangeBody, Subject.uncommented,
        List.flatMap_map]
      rfl
  | checkInvalidIndices => rw [standardEmit, standardEmit, Validation.indices_uncommented]
  | normalize =>
      simp only [standardEmit, Revision.scaling, Revision.scalingBody, Subject.uncommented,
        List.filterMap_map]
      rfl
  | compare =>
      simp only [standardEmit, Comparison.compare, Comparison.body, Subject.uncommented,
        List.map_map]
      rfl

/-- Comments stay comments in what is declared of a struct. -/
structure Subject.Documented : Prop where
  /-- The rows of the declaration: above each member the documentation of the member. -/
  declared : rows (Value.declaration s) = Value.openingRows s ++
    s.fields.flatMap (fun field => Value.docRows field ++ Value.memberRows field) ++
      Value.closingRows s
  /-- Without comments the same rows are left, but for the documentation. -/
  undocumented : rows (Value.declaration s.uncommented) =
    Value.openingRows s ++ s.fields.flatMap Value.memberRows ++ Value.closingRows s
  /-- The documentation of a member is one row for each line of its comment. -/
  documentation : ∀ field ∈ s.fields, ∀ comment, field.definition.comment = some comment →
    ∃ lines, LinesOf comment.toList lines ∧ Value.docRows field = lines.map docRow
  /-- Below its documentation stands the member. -/
  member : ∀ field ∈ s.fields,
    ∃ first more, Value.memberRows field = first :: more ∧ "    pub ".toList <+: first
  /-- The trait of the hooks has nothing of the comments. -/
  hooks : Value.hooksDeclaration s.uncommented = Value.hooksDeclaration s
  /-- No concern has anything of the comments. -/
  code : ∀ artifact, (Pass.standardEmit s.uncommented artifact).map Emitted.code =
    (Pass.standardEmit s artifact).map Emitted.code

/-- Comments stay comments for every struct. -/
theorem Subject.documented : s.Documented where
  declared := Value.rows_declaration s
  undocumented := Value.rows_declaration_uncommented s
  documentation := by
    intro field _ comment hcomment
    refine ⟨_, linesOf_lines comment, ?_⟩
    rw [Value.docRows, hcomment]
  member := fun field _ => Value.exists_memberRows field
  hooks := rfl
  code := Pass.code_uncommented s

end Emission

/-- Headers and comments never become code. Every text of a run starts with the header, a comment
for each line of it and an empty row; and the comment of a field shows in nothing but the
documentation that stands right above its member, a row for each line of it. -/
theorem Generator.comments_stay_comments (g : Generator) :
    (∀ header order generated, g.config.header = some header → g.run order = .ok generated →
      ∀ target, StartsWithHeader header target (generated.text target)) ∧
    ∀ s : Subject, s.Documented := by
  constructor
  · intro header order generated hheader hrun target
    exact startsWithHeader_of_run hheader hrun target
  · exact Subject.documented

/-- A header that looks like code, with two kinds of line ends and an empty line, stands as comments
above every text of a run. -/
theorem Generator.armory_starts_with_header :
    ∃ generated, ({ catalog := Catalog.armory, config.header := some "*/ mod value;\r\n\n\x7d" } :
        Generator).generate = .ok generated ∧
      ∀ target, StartsWithHeader "*/ mod value;\r\n\n\x7d" target (generated.text target) := by
  obtain ⟨generated, hgenerated⟩ := Stepwise.exists_ok_of_isOk (show
    ({ catalog := Catalog.armory, config.header := some "*/ mod value;\r\n\n\x7d" } :
      Generator).generate.isOk = true by decide +kernel)
  exact ⟨generated, hgenerated, (comments_stay_comments _).1 _ _ generated rfl hgenerated⟩

end TagSchema
