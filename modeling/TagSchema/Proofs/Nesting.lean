import TagSchema.Proofs.Literals
import TagSchema.Proofs.Rows

/-!
# Nested code

Indentation moves each line of a text to the right and leaves the lines themselves alone, so it may
be done in several steps or at once, and part by part. Generated code rests on this: statements
stand in loops, loops in methods and methods in implementation blocks, and each level indents what
is inside it as a text. A fragment says how code is nested; its layout lists the lines of the code
with their depths.

Main results:

- `Text.LinesOf.eq_linesFrom`: the lines of a text are what it is cut into.
- `Text.linesFrom_indent`, `Text.indent_indent`: the lines of indented code, and indentation in two
  steps.
- `Emission.Fragment.laidOut`: nested code consists of the lines of its layout.
- `Emission.Fragment.statements_sublist`: no statement is lost or moved.
- `Emission.indentation_composes`: the laws of indentation, and what they mean for nested code.
-/

namespace TagSchema
namespace Text

/-! ## Lines -/

/-- A line that no newline ends is held to the end. -/
theorem linesFrom_of_open {line : List Char} (h : '\n' ∉ line) (held : List Char) :
    linesFrom held line = linesFrom (line.reverse ++ held) [] := by
  induction line generalizing held with
  | nil => rfl
  | cons c line ih =>
      rw [List.mem_cons, not_or] at h
      have hheld : linesFrom held (c :: line) = linesFrom (c :: held) line := by
        rw [linesFrom, if_neg (Ne.symm h.1)]
      rw [hheld, ih h.2, List.reverse_cons, List.append_assoc]
      rfl

/-- The lines of a text are what it is cut into. -/
theorem LinesOf.eq_linesFrom {text : List Char} {lines : List (List Char)}
    (h : LinesOf text lines) : lines = linesFrom [] text := by
  induction h with
  | empty => rfl
  | last hne hline =>
      rw [linesFrom_of_open hline, List.append_nil, linesFrom, if_neg (by simpa using hne),
        List.reverse_reverse]
  | ended hline hend _ ih =>
      rw [linesFrom_of_not_mem hline, List.append_nil, dropReturn_reverse hend,
        List.reverse_reverse, ih]
  | @returned line rest lines hline _ ih =>
      have hcut := @linesFrom_of_not_mem (line ++ ['\r']) (by simpa using hline) [] rest
      rw [List.append_assoc] at hcut
      simpa [dropReturn, ih] using hcut.symm

/-- The characters of a line are characters of the text. -/
theorem LinesOf.subset {text line : List Char} {lines : List (List Char)} (h : LinesOf text lines)
    (hmem : line ∈ lines) : line ⊆ text := by
  induction h with
  | empty => cases hmem
  | last =>
      rw [List.mem_singleton.1 hmem]
      exact List.Subset.refl _
  | ended _ _ _ ih =>
      rcases List.mem_cons.1 hmem with rfl | hrest
      · exact List.subset_append_left _ _
      · exact fun c hc => by simp [ih hrest hc]
  | returned _ _ ih =>
      rcases List.mem_cons.1 hmem with rfl | hrest
      · exact List.subset_append_left _ _
      · exact fun c hc => by simp [ih hrest hc]

/-- Only the empty text has no lines. -/
theorem linesFrom_eq_nil_iff {text : List Char} : linesFrom [] text = [] ↔ text = [] := by
  constructor
  · intro h
    have hlines := linesOf_linesFrom_nil text
    rw [h] at hlines
    cases hlines
    rfl
  · rintro rfl
    rfl

/-! ## Indentation -/

/-- Indented code, line by line. -/
theorem indent_eq (levels : Nat) (code : String) :
    indent levels code = String.ofList
      (((linesFrom [] code.toList).map (indentedRow levels)).flatMap (· ++ ['\n'])) := by
  rw [indent, List.flatMap_map]
  exact congrArg String.ofList (List.flatMap_congr fun line _ => indentLine_eq levels line)

/-- Indentation makes no code disappear. -/
theorem indent_eq_empty_iff (levels : Nat) (code : String) :
    indent levels code = "" ↔ code = "" := by
  constructor
  · intro hempty
    have hrows := closedRows_indent levels code
    rw [hempty] at hrows
    have hnil : linesFrom [] code.toList = [] := List.map_eq_nil_iff.1 hrows.symm
    exact String.toList_inj.1 (linesFrom_eq_nil_iff.1 hnil)
  · rintro rfl
    exact indent_empty levels

/-- An indented line ends like the line itself. -/
theorem getLast?_indentedRow (levels : Nat) (line : List Char) :
    (indentedRow levels line).getLast? = line.getLast? := by
  by_cases hline : line = []
  · rw [hline]
    rfl
  · rw [indentedRow_of_ne_nil levels hline, List.getLast?_append_of_ne_nil _ hline]

/-- An empty line stays empty however often it is indented. -/
theorem indentedRow_indentedRow (first second : Nat) (line : List Char) :
    indentedRow second (indentedRow first line) = indentedRow (first + second) line := by
  by_cases hline : line = []
  · rw [hline]
    rfl
  · have hfirst : indentedRow first line ≠ [] := by
      rw [indentedRow_of_ne_nil first hline]
      simp [hline]
    rw [indentedRow_of_ne_nil second hfirst, indentedRow_of_ne_nil first hline,
      indentedRow_of_ne_nil _ hline, ← List.append_assoc, List.replicate_append_replicate,
      Nat.mul_add, Nat.add_comm]

/-- Indentation adds nothing but blanks to a line. -/
theorem mem_indentedRow {levels : Nat} {line : List Char} {c : Char}
    (h : c ∈ indentedRow levels line) : c = ' ' ∨ c ∈ line := by
  rw [indentedRow] at h
  split at h
  · cases h
  · rcases List.mem_append.1 h with hblank | hline
    · exact Or.inl (List.eq_of_mem_replicate hblank)
    · exact Or.inr hline

section Plain

variable {code : String} (h : '\r' ∉ code.toList)

include h

theorem return_not_mem_line {line : List Char} (hline : line ∈ linesFrom [] code.toList) :
    '\r' ∉ line :=
  fun hreturn => h ((linesOf_linesFrom_nil code.toList).subset hline hreturn)

/-- Indented code has the lines of the code, each moved to the right. -/
theorem linesFrom_indent (levels : Nat) :
    linesFrom [] (indent levels code).toList =
      (linesFrom [] code.toList).map (indentedRow levels) := by
  rw [indent_eq, String.toList_ofList]
  apply linesFrom_lines
  · intro row hrow
    rcases List.mem_map.1 hrow with ⟨line, hline, rfl⟩
    have hnewline := (linesOf_linesFrom_nil code.toList).newline_not_mem hline
    exact newline_not_mem_indentedRow levels hnewline
  · intro row hrow
    rcases List.mem_map.1 hrow with ⟨line, hline, rfl⟩
    rw [getLast?_indentedRow]
    intro hlast
    exact return_not_mem_line h hline (List.mem_of_getLast? hlast)

/-- Steps to the right add up. -/
theorem indent_indent (first second : Nat) :
    indent second (indent first code) = indent (first + second) code := by
  rw [indent_eq second, linesFrom_indent h, List.map_map, indent_eq (first + second)]
  exact congrArg
    (fun row => String.ofList (((linesFrom [] code.toList).map row).flatMap (· ++ ['\n'])))
    (funext (indentedRow_indentedRow first second))

/-- Indentation brings no carriage return into a text. -/
theorem return_not_mem_indent (levels : Nat) : '\r' ∉ (indent levels code).toList := by
  rw [indent_eq, String.toList_ofList]
  intro hreturn
  rcases List.mem_flatMap.1 hreturn with ⟨row, hrow, hreturn⟩
  rcases List.mem_map.1 hrow with ⟨line, hline, rfl⟩
  rcases List.mem_append.1 hreturn with hrow | hend
  · rcases mem_indentedRow hrow with hblank | hmem
    · cases hblank
    · exact return_not_mem_line h hline hmem
  · cases List.mem_singleton.1 hend

end Plain

example : indent 1 "a;\n\nb;" = "    a;\n\n    b;\n" := by decide

end Text

namespace Emission

open Text

/-! ## Layouts -/

/-- A row as it is seen, without its newline; a row without text is empty. -/
def Row.shown (row : Row) : List Char :=
  indentedRow row.depth row.text.toList

/-- The lines of a text as rows that are not moved. -/
def flatRows (code : String) : List Row :=
  (lines code).map (Row.mk 0)

/-- The rows of a block with a head, which may itself have several lines. -/
def blockRows (head : String) (body : List Row) : List Row :=
  flatRows (head ++ " \x7b" ++ "\n") ++ body.map Row.nest ++ [⟨0, "\x7d"⟩]

/-- Code consists of rows: these are its lines, and the last of them is ended. -/
structure LaidOut (code : String) (rows : List Row) : Prop where
  complete : Complete code
  plain : '\r' ∉ code.toList
  lines : linesFrom [] code.toList = rows.map Row.shown

/-- Code that is cut into rows shows its lines. -/
theorem shown_flatRows (code : String) :
    (flatRows code).map Row.shown = linesFrom [] code.toList := by
  have hshown : ∀ line : List Char, (Row.mk 0 (String.ofList line)).shown = line := by
    intro line
    rw [Row.shown, String.toList_ofList, indentedRow]
    split
    · rename_i hempty
      exact (List.isEmpty_iff.1 hempty).symm
    · rfl
  rw [flatRows, Text.lines, List.map_map, List.map_map]
  exact List.map_id'' hshown _

/-- A row that is nested shows its line one step to the right. -/
theorem shown_nest (row : Row) : row.nest.shown = indentedRow 1 row.shown :=
  (indentedRow_indentedRow row.depth 1 row.text.toList).symm

namespace LaidOut

variable {code first second : String} {rows rows' : List Row}

/-- Code with complete lines is laid out as its own lines. -/
theorem flat (hcomplete : Complete code) (hplain : '\r' ∉ code.toList) :
    LaidOut code (flatRows code) :=
  ⟨hcomplete, hplain, (shown_flatRows code).symm⟩

theorem empty : LaidOut "" [] :=
  ⟨Or.inl rfl, by simp, rfl⟩

theorem blank : LaidOut "\n" [⟨0, ""⟩] :=
  ⟨Complete.line "", by decide, rfl⟩

theorem append (hfirst : LaidOut first rows) (hsecond : LaidOut second rows') :
    LaidOut (first ++ second) (rows ++ rows') where
  complete := hfirst.complete.append hsecond.complete
  plain := by
    rw [String.toList_append, List.mem_append, not_or]
    exact ⟨hfirst.plain, hsecond.plain⟩
  lines := by
    rw [linesFrom_append hfirst.complete, hfirst.lines, hsecond.lines, List.map_append]

/-- Indented code is laid out in nested rows. -/
theorem indent (h : LaidOut code rows) : LaidOut (indent 1 code) (rows.map Row.nest) where
  complete := complete_indent 1 code
  plain := return_not_mem_indent h.plain 1
  lines := by
    rw [linesFrom_indent h.plain, h.lines, List.map_map, List.map_map]
    exact List.map_congr_left fun row _ => (shown_nest row).symm

/-- A block is its head, the rows of its code one step to the right, and the closing brace. -/
theorem headed {head : String} (hhead : '\r' ∉ head.toList) (h : LaidOut code rows) :
    LaidOut (headed head code) (blockRows head rows) := by
  have hopening : LaidOut (head ++ " \x7b" ++ "\n") (flatRows (head ++ " \x7b" ++ "\n")) := by
    apply flat (Complete.line _)
    simpa using hhead
  have hclosing : LaidOut ("\x7d" ++ "\n") [⟨0, "\x7d"⟩] := ⟨Complete.line "\x7d", by decide, rfl⟩
  rw [Emission.headed, enclose, String.append_assoc]
  exact (hopening.append h.indent).append hclosing

end LaidOut

/-! ## Fragments -/

/-- The head of a block. It may have several lines. -/
structure Heading where
  text : String
  plain : '\r' ∉ text.toList

/-- Statements that end their last line. -/
structure Statement where
  text : String
  complete : Complete text
  plain : '\r' ∉ text.toList

/-- How code is nested: statements, code for each element of a field that is told its place,
methods, and implementation blocks. -/
inductive Fragment where
  | statement (s : Statement)
  | each (ident : String) (loop : Option Nat) (body : Place → List Fragment)
  | method (signature : Heading) (body : List Fragment)
  | implementation (head : Heading) (items : List Fragment)

namespace Fragment

mutual

/-- The code of a fragment. -/
def text : Fragment → String
  | statement s => s.text
  | each ident loop body =>
      Step.render (fun _ place => String.join (texts (body place))) ⟨ident, loop, ()⟩
  | method signature body => Emission.method signature.text (String.join (texts body))
  | implementation head items => implBlock head.text (texts items)

/-- The codes of some fragments. -/
def texts : List Fragment → List String
  | [] => []
  | fragment :: rest => fragment.text :: texts rest

end

mutual

/-- The rows that the code of a fragment should consist of. -/
def layout : Fragment → List Row
  | statement s => flatRows s.text
  | each ident none body => (layouts (body ⟨ident, false⟩)).flatten
  | each ident (some length) body =>
      blockRows ("for i in 0.." ++ toString length) (layouts (body ⟨ident, true⟩)).flatten
  | method signature body => blockRows signature.text (layouts body).flatten
  | implementation head items =>
      blockRows head.text ([⟨0, ""⟩].intercalate (layouts items)) ++ [⟨0, ""⟩]

/-- The rows of some fragments. -/
def layouts : List Fragment → List (List Row)
  | [] => []
  | fragment :: rest => fragment.layout :: layouts rest

end

mutual

/-- The statements of a fragment, in order. -/
def statements : Fragment → List Statement
  | statement s => [s]
  | each ident loop body => statementsOf (body ⟨ident, loop.isSome⟩)
  | method _ body => statementsOf body
  | implementation _ items => statementsOf items

/-- The statements of some fragments, in order. -/
def statementsOf : List Fragment → List Statement
  | [] => []
  | fragment :: rest => fragment.statements ++ statementsOf rest

end

end Fragment

namespace LaidOut

theorem join {codes : List String} {layouts : List (List Row)}
    (h : List.Forall₂ LaidOut codes layouts) :
    LaidOut (String.join codes) layouts.flatten := by
  induction h with
  | nil => exact empty
  | cons hfirst _ ih =>
      rw [String.join_cons, List.flatten_cons]
      exact hfirst.append ih

/-- Items with an empty line between two of them. -/
theorem intercalate {codes : List String} {layouts : List (List Row)}
    (h : List.Forall₂ LaidOut codes layouts) :
    LaidOut (String.intercalate "\n" codes) ([⟨0, ""⟩].intercalate layouts) := by
  induction h with
  | nil => exact empty
  | cons hfirst hrest ih =>
      cases hrest with
      | nil =>
          rw [String.intercalate_singleton, List.intercalate_singleton]
          exact hfirst
      | cons hsecond hrest =>
          rw [String.intercalate_cons_cons, List.intercalate_cons_cons]
          exact (hfirst.append blank).append ih

end LaidOut

namespace Fragment

mutual

/-- The code of a fragment consists of the rows of its layout. -/
theorem laidOut : (fragment : Fragment) → LaidOut fragment.text fragment.layout
  | statement s => LaidOut.flat s.complete s.plain
  | each ident none body => LaidOut.join (laidOut_texts (body ⟨ident, false⟩))
  | each ident (some length) body => by
      have hhead : '\r' ∉ ("for i in 0.." ++ toString length).toList := by
        rw [String.toList_append, Literal.toList_toString, List.mem_append, not_or]
        exact ⟨by decide, fun hmem => Literal.ne_of_mem_toDigits hmem (by decide) rfl⟩
      exact LaidOut.headed hhead (LaidOut.join (laidOut_texts (body ⟨ident, true⟩)))
  | method signature body => LaidOut.headed signature.plain (LaidOut.join (laidOut_texts body))
  | implementation head items =>
      (LaidOut.headed head.plain (LaidOut.intercalate (laidOut_texts items))).append LaidOut.blank

/-- The codes of some fragments are laid out in their rows, one fragment after the other. -/
theorem laidOut_texts : (fragments : List Fragment) →
    List.Forall₂ LaidOut (texts fragments) (layouts fragments)
  | [] => .nil
  | fragment :: rest => .cons (laidOut fragment) (laidOut_texts rest)

end

/-- A block keeps the texts of the rows inside it, in order. -/
theorem text_sublist_blockRows (head : String) (rows : List Row) :
    List.Sublist (rows.map Row.text) ((blockRows head rows).map Row.text) := by
  have hnest : (rows.map Row.nest).map Row.text = rows.map Row.text := by
    rw [List.map_map]
    rfl
  rw [blockRows, List.map_append, List.map_append, hnest]
  exact (List.sublist_append_right _ _).trans (List.sublist_append_left _ _)

/-- Empty lines between items leave the items alone. -/
theorem flatten_sublist_intercalate (row : Row) (items : List (List Row)) :
    List.Sublist items.flatten ([row].intercalate items) := by
  induction items with
  | nil => exact List.Sublist.refl _
  | cons first rest ih =>
      cases rest with
      | nil => simp
      | cons second rest =>
          rw [List.flatten_cons, List.intercalate_cons_cons, List.append_assoc]
          exact (List.Sublist.refl first).append (ih.trans (List.sublist_append_right _ _))

mutual

/-- The lines of the statements of a fragment are among the rows of its layout, in order. -/
theorem statements_sublist : (fragment : Fragment) →
    List.Sublist (fragment.statements.flatMap fun s => lines s.text) (fragment.layout.map Row.text)
  | statement s => by
      have hrows : (flatRows s.text).map Row.text = lines s.text := by
        rw [flatRows, List.map_map]
        exact List.map_id _
      rw [statements, layout, hrows, List.flatMap_singleton]
  | each ident none body => statementsOf_sublist (body ⟨ident, false⟩)
  | each ident (some length) body =>
      (statementsOf_sublist (body ⟨ident, true⟩)).trans (text_sublist_blockRows _ _)
  | method signature body => (statementsOf_sublist body).trans (text_sublist_blockRows _ _)
  | implementation head items => by
      have hitems := (flatten_sublist_intercalate ⟨0, ""⟩ (layouts items)).map Row.text
      have hblock :=
        ((statementsOf_sublist items).trans hitems).trans (text_sublist_blockRows head.text _)
      rw [statements, layout, List.map_append]
      exact hblock.trans (List.sublist_append_left _ _)

/-- The statements of some fragments are among their rows, in order. -/
theorem statementsOf_sublist : (fragments : List Fragment) →
    List.Sublist ((statementsOf fragments).flatMap fun s => lines s.text)
      ((layouts fragments).flatten.map Row.text)
  | [] => List.Sublist.refl _
  | fragment :: rest => by
      rw [statementsOf, layouts, List.flatMap_append, List.flatten_cons, List.map_append]
      exact (statements_sublist fragment).append (statementsOf_sublist rest)

end

end Fragment

/-- Indentation composes. Steps to the right add up, texts without an open line are indented one
after the other, and indented code has the same lines in the same order, four blanks for each step
before those that are not empty, and ends with a newline unless it is empty. So code that is nested
by loops, methods and implementation blocks consists of the rows of its layout, and these hold the
lines of all statements in their order. -/
theorem indentation_composes :
    (∀ (code : String) (m n : Nat), '\r' ∉ code.toList →
      indent n (indent m code) = indent (m + n) code) ∧
    (∀ (first second : String) (n : Nat), Complete first →
      indent n (first ++ second) = indent n first ++ indent n second) ∧
    (∀ (code : String) (n : Nat) (ls : List (List Char)),
      '\r' ∉ code.toList → LinesOf code.toList ls →
      LinesOf (indent n code).toList
        (ls.map fun line => if line.isEmpty then [] else List.replicate (4 * n) ' ' ++ line)) ∧
    (∀ (code : String) (n : Nat), (code = "" → indent n code = "") ∧
      (code ≠ "" → ∃ before, indent n code = before ++ "\n")) ∧
    ∀ fragment : Fragment, LinesOf fragment.text.toList (fragment.layout.map Row.shown) ∧
      List.Sublist (fragment.statements.flatMap fun s => lines s.text)
        (fragment.layout.map Row.text) := by
  refine ⟨fun code m n h => indent_indent h m n, fun first second n h => indent_append h n second,
    ?_, ?_, ?_⟩
  · intro code n ls hplain hlines
    rw [hlines.eq_linesFrom]
    have hindented := linesOf_linesFrom_nil (indent n code).toList
    rwa [linesFrom_indent hplain] at hindented
  · intro code n
    refine ⟨(indent_eq_empty_iff n code).2, fun hne => ?_⟩
    exact (complete_indent n code).resolve_left fun hempty =>
      hne ((indent_eq_empty_iff n code).1 hempty)
  · intro fragment
    refine ⟨?_, fragment.statements_sublist⟩
    rw [← fragment.laidOut.lines]
    exact linesOf_linesFrom_nil _

end Emission
end TagSchema
