import Mathlib.Data.List.Basic
import TagSchema.Proofs.Layout
import TagSchema.Text.Blank
import TagSchema.Text.Pieces

/-!
# Rows and lines

The rows of a text are what stands between its newlines, as a reader of generated code sees them.
The lines of a text are fewer: the last row counts only if it is not empty, and a carriage return
right before a newline belongs to the line end. Both views meet where lines are written out again: a
line without a newline in it becomes one row.

Main results:

- `Text.rows_append`, `Text.closedRows_join`: the rows of texts one after the other.
- `Text.linesOf_lines`: what the lines of a text are.
- `Text.closedRows_indent`: indentation moves the lines of a text to the right, each as a row.
-/

namespace TagSchema
namespace Text

/-! ## Rows -/

/-- The rows of a text: what stands between its newlines. -/
def rows (text : String) : List (List Char) :=
  pieces (· = '\n') text.toList

/-- The rows of a text that end with a newline: all but the last. -/
def closedRows (text : String) : List (List Char) :=
  (rows text).dropLast

theorem rows_ne_nil (text : String) : rows text ≠ [] :=
  pieces_ne_nil _ _

/-- A newline ends a row. -/
theorem rows_newline (before after : String) :
    rows (before ++ "\n" ++ after) = rows before ++ rows after := by
  unfold rows
  rw [String.toList_append, String.toList_append, List.append_assoc]
  exact pieces_append_cons rfl before.toList after.toList

/-- A text without newlines is one row. -/
theorem rows_of_not_mem {text : String} (h : '\n' ∉ text.toList) : rows text = [text.toList] := by
  apply pieces_of_forall
  intro c hc
  rw [decide_eq_false_iff_not]
  rintro rfl
  exact h hc

/-- The rows of a text without an open line, and of what follows it. -/
theorem rows_append {first : String} (h : Complete first) (second : String) :
    rows (first ++ second) = closedRows first ++ rows second := by
  rcases h with rfl | ⟨before, rfl⟩
  · rw [String.empty_append]
    rfl
  · have hopen : rows (before ++ "\n") = rows before ++ [[]] := by
      have hrows := rows_newline before ""
      rwa [String.append_empty] at hrows
    rw [rows_newline, closedRows, hopen, List.dropLast_concat]

/-- Rows of texts that are put together, when the first one ends its last line. -/
theorem closedRows_append {first : String} (h : Complete first) (second : String) :
    closedRows (first ++ second) = closedRows first ++ closedRows second := by
  rw [closedRows, rows_append h, List.dropLast_append_of_ne_nil (rows_ne_nil second), closedRows,
    closedRows]

/-- Rows of texts that are joined, when each of them ends its last line. -/
theorem closedRows_join {texts : List String} (h : ∀ text ∈ texts, Complete text) :
    closedRows (String.join texts) = texts.flatMap closedRows := by
  induction texts with
  | nil => rfl
  | cons text texts ih =>
      rw [String.join_cons, List.flatMap_cons, closedRows_append (h text List.mem_cons_self),
        ih fun other hother => h other (List.mem_cons_of_mem text hother)]

/-! ## Lines -/

/-- The lines of a text. A line ends at a newline, with a carriage return right before it if there
is one; what stands behind the last newline is a line unless it is empty. -/
inductive LinesOf : List Char → List (List Char) → Prop where
  | empty : LinesOf [] []
  | last {line : List Char} (hne : line ≠ []) (hline : '\n' ∉ line) : LinesOf line [line]
  | ended {line rest : List Char} {lines : List (List Char)} (hline : '\n' ∉ line)
      (hend : line.getLast? ≠ some '\r') (hrest : LinesOf rest lines) :
      LinesOf (line ++ '\n' :: rest) (line :: lines)
  | returned {line rest : List Char} {lines : List (List Char)} (hline : '\n' ∉ line)
      (hrest : LinesOf rest lines) : LinesOf (line ++ '\r' :: '\n' :: rest) (line :: lines)

/-- No line has a newline in it. -/
theorem LinesOf.newline_not_mem {text line : List Char} {lines : List (List Char)}
    (h : LinesOf text lines) (hmem : line ∈ lines) : '\n' ∉ line := by
  induction h with
  | empty => cases hmem
  | last _ hline => rwa [List.mem_singleton.1 hmem]
  | ended hline _ _ ih =>
      rcases List.mem_cons.1 hmem with rfl | hrest
      · exact hline
      · exact ih hrest
  | returned hline _ ih =>
      rcases List.mem_cons.1 hmem with rfl | hrest
      · exact hline
      · exact ih hrest

/-- The lines that are cut off behind an open line, which is held in reverse. -/
theorem linesOf_linesFrom {held : List Char} (hheld : '\n' ∉ held) (text : List Char) :
    LinesOf (held.reverse ++ text) (linesFrom held text) := by
  induction text generalizing held with
  | nil =>
      rw [List.append_nil, linesFrom]
      split
      · rename_i hempty
        rw [List.isEmpty_iff.1 hempty]
        exact .empty
      · rename_i hne
        exact .last (by simpa using hne) (by simpa using hheld)
  | cons c text ih =>
      rw [linesFrom]
      split
      · rename_i hc
        have hrest := @ih [] (by simp)
        rw [hc]
        unfold dropReturn
        split
        · rename_i line
          have hline : '\n' ∉ line.reverse := by
            intro hmem
            exact hheld (List.mem_cons_of_mem _ (List.mem_reverse.1 hmem))
          rw [List.reverse_cons, List.append_assoc]
          exact .returned hline hrest
        · rename_i hend
          refine .ended (by simpa using hheld) ?_ hrest
          rw [List.getLast?_reverse]
          intro hlast
          rcases List.head?_eq_some_iff.1 hlast with ⟨line, rfl⟩
          exact hend line rfl
      · rename_i hc
        have hmore : '\n' ∉ c :: held := by
          rw [List.mem_cons, not_or]
          exact ⟨Ne.symm hc, hheld⟩
        have hrest := ih hmore
        rwa [List.reverse_cons, List.append_assoc] at hrest

theorem linesOf_linesFrom_nil (text : List Char) : LinesOf text (linesFrom [] text) :=
  @linesOf_linesFrom [] (by simp) text

/-- The lines that are taken of a text are its lines. -/
theorem linesOf_lines (text : String) : LinesOf text.toList ((lines text).map String.toList) := by
  have hsame : (lines text).map String.toList = linesFrom [] text.toList := by
    rw [lines, List.map_map]
    simp [Function.comp_def]
  rw [hsame]
  exact linesOf_linesFrom_nil text.toList

/-- The first line of a text starts with what the text starts with, if that is part of a line and no
line end cuts into it. -/
theorem LinesOf.exists_first {mark rest : List Char} {lines : List (List Char)}
    (h : LinesOf (mark ++ rest) lines) (hne : mark ≠ []) (hmark : '\n' ∉ mark)
    (hreturn : '\r' ∉ mark) : ∃ first more, lines = first :: more ∧ mark <+: first := by
  generalize htext : mark ++ rest = text at h
  -- a line end behind the first line lies behind the mark
  have hcut : ∀ {line tail : List Char} {c : Char}, c ∉ mark → mark ++ rest = line ++ c :: tail →
      mark <+: line := by
    intro line tail c hc hsplit
    rcases List.append_eq_append_iff.1 hsplit with ⟨between, hline, _⟩ | ⟨between, hover, htail⟩
    · exact ⟨between, hline.symm⟩
    · cases between with
      | nil => simp [hover]
      | cons d between =>
          rw [List.cons_append, List.cons.injEq] at htail
          rw [hover, htail.1] at hc
          exact absurd (by simp) hc
  cases h with
  | empty => exact absurd (List.append_eq_nil_iff.1 htext).1 hne
  | last => exact ⟨_, _, rfl, rest, htext⟩
  | ended => exact ⟨_, _, rfl, hcut hmark htext⟩
  | returned => exact ⟨_, _, rfl, hcut hreturn htext⟩

/-! ## Indentation -/

/-- A line as it stands after indentation, without its newline. -/
def indentedRow (levels : Nat) (line : List Char) : List Char :=
  if line.isEmpty then [] else List.replicate (stepWidth * levels) ' ' ++ line

/-- A line that is not empty is moved by blanks. -/
theorem indentedRow_of_ne_nil (levels : Nat) {line : List Char} (h : line ≠ []) :
    indentedRow levels line = List.replicate (stepWidth * levels) ' ' ++ line := by
  rw [indentedRow, if_neg (by simpa using h)]

theorem indentLine_eq (levels : Nat) (line : List Char) :
    indentLine levels line = indentedRow levels line ++ ['\n'] := by
  rw [indentLine, indentedRow]
  split <;> rfl

/-- Indentation does not break a line. -/
theorem newline_not_mem_indentedRow (levels : Nat) {line : List Char} (h : '\n' ∉ line) :
    '\n' ∉ indentedRow levels line := by
  rw [indentedRow]
  split
  · simp
  · rw [List.mem_append, not_or]
    exact ⟨by simp, h⟩

/-- Indentation writes one row for each line. -/
theorem rows_indentLines (levels : Nat) {lines : List (List Char)}
    (h : ∀ line ∈ lines, '\n' ∉ line) :
    rows (String.ofList (lines.flatMap (indentLine levels))) =
      lines.map (indentedRow levels) ++ [[]] := by
  induction lines with
  | nil => rfl
  | cons line lines ih =>
      rw [List.forall_mem_cons] at h
      have hrow := newline_not_mem_indentedRow levels h.1
      rw [List.flatMap_cons, indentLine_eq, String.ofList_append, String.ofList_append]
      change rows (String.ofList (indentedRow levels line) ++ "\n" ++ _) = _
      rw [rows_newline, ih h.2, rows_of_not_mem (by rwa [String.toList_ofList]),
        String.toList_ofList]
      rfl

/-- The rows of indented code are its lines, each moved to the right. -/
theorem closedRows_indent (levels : Nat) (code : String) :
    closedRows (indent levels code) = (linesFrom [] code.toList).map (indentedRow levels) := by
  have hlines : ∀ line ∈ linesFrom [] code.toList, '\n' ∉ line := by
    intro line hline
    exact (linesOf_linesFrom_nil code.toList).newline_not_mem hline
  rw [closedRows, indent, rows_indentLines levels hlines, List.dropLast_concat]

/-- A line is held until its newline. -/
theorem linesFrom_of_not_mem {line : List Char} (h : '\n' ∉ line) (held rest : List Char) :
    linesFrom held (line ++ '\n' :: rest) =
      (dropReturn (line.reverse ++ held)).reverse :: linesFrom [] rest := by
  induction line generalizing held with
  | nil => simp [linesFrom]
  | cons c line ih =>
      rw [List.mem_cons, not_or] at h
      rw [List.cons_append, linesFrom, if_neg (Ne.symm h.1), ih h.2, List.reverse_cons,
        List.append_assoc]
      rfl

/-- Only a carriage return at the end of a line is dropped. -/
theorem dropReturn_reverse {line : List Char} (h : line.getLast? ≠ some '\r') :
    dropReturn line.reverse = line.reverse := by
  unfold dropReturn
  split
  · rename_i held hheld
    rw [← List.head?_reverse, hheld] at h
    exact absurd rfl h
  · rfl

/-- Lines that do not end with a carriage return are read back as they are. -/
theorem linesFrom_lines {lines : List (List Char)} (hlines : ∀ line ∈ lines, '\n' ∉ line)
    (hends : ∀ line ∈ lines, line.getLast? ≠ some '\r') :
    linesFrom [] (lines.flatMap (· ++ ['\n'])) = lines := by
  induction lines with
  | nil => rfl
  | cons line lines ih =>
      rw [List.forall_mem_cons] at hlines hends
      have hcut := linesFrom_of_not_mem hlines.1 [] (lines.flatMap (· ++ ['\n']))
      rw [List.append_nil, dropReturn_reverse hends.1, List.reverse_reverse,
        ih hlines.2 hends.2] at hcut
      rw [List.flatMap_cons, List.append_assoc]
      exact hcut

/-- A single line that is ended is cut into itself. -/
theorem linesFrom_line {line : String} (hline : '\n' ∉ line.toList)
    (hend : line.toList.getLast? ≠ some '\r') :
    linesFrom [] (line ++ "\n").toList = [line.toList] := by
  have hlines := @linesFrom_lines [line.toList] (by simpa using hline) (by simpa using hend)
  rw [String.toList_append]
  simpa using hlines

/-! ## Blanks at the end -/

/-- Trimming drops the blanks at the end. -/
theorem toList_trimEnd (text : String) :
    (trimEnd text).toList = (text.toList.reverse.dropWhile isBlank).reverse := by
  rw [trimEnd, String.toList_ofList]

theorem mem_of_mem_trimEnd {text : String} {c : Char} (h : c ∈ (trimEnd text).toList) :
    c ∈ text.toList := by
  rw [toList_trimEnd, List.mem_reverse] at h
  exact List.mem_reverse.1 ((List.dropWhile_suffix isBlank).subset h)

/-- A carriage return is a blank, so none is left at the end. -/
theorem getLast?_trimEnd_ne (text : String) : (trimEnd text).toList.getLast? ≠ some '\r' := by
  rw [toList_trimEnd, List.getLast?_reverse]
  intro hlast
  have hblank := List.head?_dropWhile_not isBlank text.toList.reverse
  rw [hlast] at hblank
  cases hblank

end Text
end TagSchema
