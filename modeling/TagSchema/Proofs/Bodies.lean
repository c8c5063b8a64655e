import Mathlib.Data.List.Basic
import TagSchema.Emission.Step

/-!
# Bodies of methods

The body of a generated method is a list of pieces, and some of these are steps over fields. The
text of a body is put together from the texts of its pieces. A step over an array stands in a loop,
in which each line of its code is moved to the right. Here these texts are written out line by line,
so that they can be compared with what is printed.

Main results:

- `render_eq_ended`, `enclose_eq`: rows, and code between two texts, line by line.
- `Step.render_each`, `Step.render_whole`: the text of a step over a field.
- `Piece.renderAll_append`, `Piece.renderAll_flatMap`, `Piece.renderAll_filterMap`: the text of a
  body that is put together.
-/

namespace TagSchema
namespace Emission

variable {α : Type}

/-! ## Lines -/

/-- Some lines as a text, each with its newline. -/
def ended (lines : List String) : String :=
  String.join (lines.map (· ++ "\n"))

/-- Code with each line four blanks further to the right; an empty line stays empty. -/
def shifted (code : String) : String :=
  ended ((Text.lines code).map fun line => if line.isEmpty then "" else "    " ++ line)

/-- A row as a line, without its newline. -/
def Row.spaced (row : Row) : String :=
  String.ofList (List.replicate (4 * row.depth) ' ') ++ row.text

/-- A row that is moved has four blanks more. -/
theorem Row.spaced_nest (row : Row) : row.nest.spaced = "    " ++ row.spaced := by
  have hblanks : "    " = String.ofList (List.replicate 4 ' ') := rfl
  rw [spaced, nest, spaced, hblanks, ← String.append_assoc, ← String.ofList_append,
    List.replicate_append_replicate, Nat.mul_add, Nat.add_comm]

/-- The row of a statement is its text. -/
@[simp]
theorem map_spaced_line (text : String) : (line text).map Row.spaced = [text] := by
  simp [line, Row.spaced]

/-- A block has its head, its rows further to the right, and a closing brace. -/
@[simp]
theorem map_spaced_block (head : String) (body : List Row) :
    (block head body).map Row.spaced =
      (head ++ " \x7b") :: ((body.map Row.spaced).map ("    " ++ ·) ++ ["\x7d"]) := by
  have hzero : ∀ text, (Row.mk 0 text).spaced = text := by simp [Row.spaced]
  simp [block, hzero, Row.spaced_nest]

/-- Rows are written line by line. -/
theorem render_eq_ended (rows : List Row) : render rows = ended (rows.map Row.spaced) := by
  rw [render, ended, List.map_map]
  rfl

/-- One step of indentation moves every line by four blanks. -/
theorem indent_one_eq_shifted (code : String) : Text.indent 1 code = shifted code := by
  unfold Text.indent shifted ended Text.lines
  induction Text.linesFrom [] code.toList with
  | nil => rfl
  | cons line lines ih =>
      simp only [List.flatMap_cons, List.map_cons, String.join_cons, String.ofList_append, ih]
      congr 1
      cases line with
      | nil => rfl
      | cons c line => simp [Text.indentLine, Text.stepWidth, ← String.toList_inj]

/-- Code between two texts. -/
theorem enclose_eq (opening code closing : String) :
    enclose opening code closing = opening ++ "\n" ++ shifted code ++ (closing ++ "\n") := by
  rw [enclose, indent_one_eq_shifted, String.append_assoc]

/-! ## Kinds of fields -/

/-- What a field stores outside its struct. A nested sequence has the identifier of the struct that
its elements are of. -/
inductive Kind where
  | dependency
  | data
  | reflexive (element : String)
deriving DecidableEq, Repr

/-- What a field of a type stores outside its struct, nothing if it is stored inside. -/
def Kind.of? (type : FieldType) : Option Kind :=
  match type.base with
  | .dependency => some .dependency
  | .data => some .data
  | .reflexive _ ident => some (.reflexive ident)
  | _ => none

/-- A field is stored inside its struct exactly when it stores nothing outside. -/
theorem isInline_iff {field : AnnotatedField} :
    isInline field = true ↔ Kind.of? field.type = none := by
  unfold isInline Kind.of? FieldType.isDependency FieldType.isData FieldType.isReflexive
    FieldType.reflexive?
  cases field.type.base <;> simp

/-- The kind of a field is decided by three tests, one after the other. -/
theorem tests_of_kind {field : AnnotatedField} {kind : Kind} (h : Kind.of? field.type = some kind) :
    isInline field = false ∧ field.type.isDependency = decide (kind = .dependency) ∧
      field.type.isData = decide (kind = .data) ∧
      ∀ element, kind = .reflexive element →
        (field.type.reflexive?.map (·.2)).getD "" = element := by
  unfold Kind.of? at h
  unfold isInline FieldType.isDependency FieldType.isData FieldType.isReflexive FieldType.reflexive?
  cases hbase : field.type.base with
  | dependency | data | reflexive =>
      simp only [hbase, Option.some.injEq] at h
      subst h
      simp
  | _ => simp [hbase] at h

/-! ## Places and loops -/

/-- A place as a member of a value, without the value. -/
def Place.member (place : Place) : String :=
  place.ident ++ (if place.indexed then "[i]" else "")

/-- A place inside a value is a member of it. -/
theorem Place.of_eq (place : Place) (value : String) :
    place.of value = value ++ ("." ++ place.member) := by
  simp only [Place.of, Place.member, String.append_assoc]

/-- Code in a loop over the elements of an array. -/
def inLoop (length : Nat) (code : String) : String :=
  "for i in 0.." ++ toString length ++ " \x7b\n" ++ shifted code ++ "\x7d\n"

/-- Code on a field: on the field itself, or in a loop on each element of an array. -/
def onEach (field : AnnotatedField) (code : Place → String) : String :=
  match field.type.arrayLength? with
  | some length => inLoop length (code ⟨field.ident, true⟩)
  | none => code ⟨field.ident, false⟩

/-- A loop is a block around code. -/
theorem headed_eq_inLoop (length : Nat) (code : String) :
    headed ("for i in 0.." ++ toString length) code = inLoop length code := by
  have hopening : " \x7b" ++ "\n" = " \x7b\n" := rfl
  have hclosing : "\x7d" ++ "\n" = "\x7d\n" := rfl
  delta headed inLoop
  rw [enclose_eq, hclosing, ← hopening]
  simp only [String.append_assoc]

/-- A step on each element of a field is written in the loop over them. -/
theorem Step.render_each (write : α → Place → String) (field : AnnotatedField) (action : α) :
    (Step.each field action).render write = onEach field (write action) := by
  unfold onEach Step.render Step.each
  cases field.type.arrayLength? with
  | none => rfl
  | some length => exact headed_eq_inLoop length _

/-- A step on a field as a whole is written without a loop. -/
theorem Step.render_whole (write : α → Place → String) (field : AnnotatedField) (action : α) :
    (Step.whole field action).render write = write action ⟨field.ident, false⟩ :=
  rfl

/-- Code on a field is there when it is there at every place. -/
theorem onEach_ne_empty {field : AnnotatedField} {code : Place → String}
    (h : ∀ place, code place ≠ "") : onEach field code ≠ "" := by
  unfold onEach
  split
  · rw [← headed_eq_inLoop, headed, enclose_eq]
    simp [← String.toList_inj]
  · exact h _

/-- A field that is assigned from one value to another as a whole. An array is converted element by
element. -/
def conversion (field : AnnotatedField) (destination source : String) : String :=
  destination ++ "." ++ field.ident ++ " = " ++ source ++ "." ++ field.ident ++
    match field.type.arrayLength? with
    | some _ => ".map(Into::into);\n"
    | none => ".into();\n"

/-- The conversion that is written for a field. -/
theorem convert_eq_conversion (field : AnnotatedField) (destination source : String) :
    convert field.type.arrayLength?.isSome ⟨field.ident, false⟩ destination source =
      conversion field destination source := by
  unfold convert conversion
  cases field.type.arrayLength? <;> simp [Place.of, String.append_assoc]

/-- The call of a hook, nothing when the struct does not ask for the hook. -/
def called (s : Subject) (hook : Hook) (arguments : String) : String :=
  if s.capabilities.has hook then
    s.hooksTrait ++ "::" ++ hook.methodName ++ "(" ++ arguments ++ ");\n"
  else
    ""

/-- A hook is called on its receiver and with further arguments, if there are any. -/
theorem hookCall_eq_called (s : Subject) (hook : Hook) (receiver arguments : String) :
    s.hookCall hook receiver arguments =
      called s hook (receiver ++ if arguments.isEmpty then "" else ", " ++ arguments) := by
  simp only [Subject.hookCall, called, String.append_assoc]

/-! ## Text of a body -/

namespace Piece

variable (write : α → Place → String)

/-- The text of a body in two parts. -/
theorem renderAll_append (first second : List (Piece α)) :
    renderAll write (first ++ second) = renderAll write first ++ renderAll write second := by
  rw [renderAll, List.map_append, String.join_append]
  rfl

/-- A fixed text stands as it is. -/
theorem renderAll_text (code : String) : renderAll write [.text code] = code := by
  simp [renderAll, render, String.join_cons]

/-- Two fixed texts stand one after the other. -/
theorem renderAll_texts (first second : String) :
    renderAll write [.text first, .text second] = first ++ second := by
  simp [renderAll, render, String.join_cons]

/-- The text of steps, one after the other. -/
theorem renderAll_map_step (items : List (Step α)) :
    renderAll write (items.map .step) = String.join (items.map (Step.render write)) := by
  rw [renderAll, List.map_map]
  rfl

/-- A body that has a step for each field has the text of these steps. -/
theorem renderAll_steps (step : AnnotatedField → Step α) (fields : List AnnotatedField) :
    renderAll write (fields.map fun field => .step (step field)) =
      String.join (fields.map fun field => (step field).render write) := by
  rw [renderAll, List.map_map]
  rfl

/-- A body that has some pieces for each field has the text of the fields. -/
theorem renderAll_flatMap (part : AnnotatedField → List (Piece α)) (fields : List AnnotatedField) :
    renderAll write (fields.flatMap part) =
      String.join (fields.map fun field => renderAll write (part field)) := by
  induction fields with
  | nil => rfl
  | cons field fields ih =>
      rw [List.flatMap_cons, renderAll_append, ih, List.map_cons, String.join_cons]

/-- Items without a step add nothing to a body. -/
theorem renderAll_filterMap {β : Type} (step? : β → Option (Step α)) (items : List β) :
    renderAll write ((items.filterMap step?).map .step) =
      String.join (items.map fun item => ((step? item).map (Step.render write)).getD "") := by
  induction items with
  | nil => rfl
  | cons item items ih =>
      rw [List.map_cons, String.join_cons, ← ih]
      cases hstep : step? item with
      | none => simp [hstep]
      | some step => simp [hstep, renderAll, render, String.join_cons]

/-- The call of a hook is written as it is, and not at all when the struct does not ask for it. -/
theorem renderAll_call (s : Subject) (hook : Hook) (receiver arguments : String) :
    renderAll write (call s hook receiver arguments) = s.hookCall hook receiver arguments := by
  unfold call
  split
  · simp [renderAll, render, String.join_cons]
  · rename_i hhas
    rw [Subject.hookCall, if_neg hhas]
    rfl

/-- The call of a hook under a condition stands in a block. -/
theorem renderAll_callWhen (condition : String) (s : Subject) (hook : Hook)
    (receiver arguments : String) :
    renderAll write (callWhen condition s hook receiver arguments) =
      if s.capabilities.has hook then
        "if " ++ condition ++ " \x7b\n" ++ shifted (s.hookCall hook receiver arguments) ++ "\x7d\n"
      else
        "" := by
  unfold callWhen
  split
  · simp only [renderAll, render, List.map_cons, List.map_nil, String.join_cons, String.join_nil,
      headed, enclose_eq, String.append_assoc]
    rfl
  · rfl

end Piece

end Emission
end TagSchema
