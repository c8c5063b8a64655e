import TagSchema.Emission.Code

/-!
# Indentation of code

Code that is put together from texts which end with a newline is indented text by text. So the
pieces of a block stand in the generated code one after the other, each moved to the right by
itself.

Main results:

- `Text.linesFrom_append_newline`: lines are cut at every newline.
- `Text.indent_append`, `Text.indent_join`: indentation of texts one after the other.
- `Emission.indent_enclose`: indentation of a block.
-/

namespace TagSchema
namespace Text

/-! ## Lines -/

/-- The lines before a newline do not depend on what follows it. -/
theorem linesFrom_append_newline (held before rest : List Char) :
    linesFrom held (before ++ '\n' :: rest) =
      linesFrom held (before ++ ['\n']) ++ linesFrom [] rest := by
  induction before generalizing held with
  | nil => simp [linesFrom]
  | cons c before ih =>
      by_cases hc : c = '\n'
      · simp only [List.cons_append, linesFrom, hc, if_true, ih]
      · simp only [List.cons_append, linesFrom, hc, if_false, ih]

/-- A text without an open line: it is empty or ends with a newline. -/
def Complete (text : String) : Prop :=
  text = "" ∨ ∃ before, text = before ++ "\n"

theorem Complete.line (text : String) : Complete (text ++ "\n") :=
  Or.inr ⟨text, rfl⟩

theorem Complete.append {first second : String} (hfirst : Complete first)
    (hsecond : Complete second) : Complete (first ++ second) := by
  rcases hsecond with rfl | ⟨before, rfl⟩
  · rwa [String.append_empty]
  · rw [← String.append_assoc]
    exact Complete.line _

theorem Complete.join {texts : List String} (h : ∀ text ∈ texts, Complete text) :
    Complete (String.join texts) := by
  induction texts with
  | nil => exact Or.inl rfl
  | cons text texts ih =>
      rw [String.join_cons]
      exact (h text List.mem_cons_self).append (ih fun other hother =>
        h other (List.mem_cons_of_mem text hother))

/-! ## Indentation -/

theorem indent_empty (levels : Nat) : indent levels "" = "" := rfl

/-- The lines of a text without an open line, and of what follows it. -/
theorem linesFrom_append {first : String} (h : Complete first) (second : String) :
    linesFrom [] (first ++ second).toList =
      linesFrom [] first.toList ++ linesFrom [] second.toList := by
  rcases h with rfl | ⟨before, rfl⟩
  · rw [String.empty_append]
    rfl
  · have hlines := linesFrom_append_newline [] before.toList second.toList
    simp only [String.toList_append, List.append_assoc]
    exact hlines

/-- Texts are indented one after the other, when the first one ends its last line. -/
theorem indent_append {first : String} (h : Complete first) (levels : Nat) (second : String) :
    indent levels (first ++ second) = indent levels first ++ indent levels second := by
  unfold indent
  rw [linesFrom_append h, List.flatMap_append, String.ofList_append]

/-- Texts are indented one by one, when each of them ends its last line. -/
theorem indent_join (levels : Nat) {texts : List String} (h : ∀ text ∈ texts, Complete text) :
    indent levels (String.join texts) = String.join (texts.map (indent levels)) := by
  induction texts with
  | nil => rfl
  | cons text texts ih =>
      rw [String.join_cons, List.map_cons, String.join_cons,
        indent_append (h text List.mem_cons_self),
        ih fun other hother => h other (List.mem_cons_of_mem text hother)]

/-- Indented code has no open line. -/
theorem complete_indent (levels : Nat) (code : String) : Complete (indent levels code) := by
  have hlines : indent levels code =
      String.join ((linesFrom [] code.toList).map fun line =>
        String.ofList (indentLine levels line)) := by
    unfold indent
    induction linesFrom [] code.toList with
    | nil => rfl
    | cons line lines ih =>
        rw [List.flatMap_cons, String.ofList_append, ih, List.map_cons, String.join_cons]
  rw [hlines]
  apply Complete.join
  intro text htext
  obtain ⟨line, _, rfl⟩ := List.mem_map.1 htext
  unfold indentLine
  split
  · exact Complete.line ""
  · rw [String.ofList_append]
    exact Complete.line _

end Text

namespace Emission

open Text

/-- The lines of a block are indented one after the other. -/
theorem indent_enclose (levels : Nat) (opening code closing : String) :
    indent levels (enclose opening code closing) =
      indent levels (opening ++ "\n") ++ indent levels (indent 1 code) ++
        indent levels (closing ++ "\n") := by
  have hopening : Complete (opening ++ "\n") := Complete.line opening
  have hcode : Complete (opening ++ "\n" ++ indent 1 code) :=
    hopening.append (complete_indent 1 code)
  rw [enclose, String.append_assoc, indent_append hcode, indent_append hopening]

/-- A block inside a block is indented part by part. -/
theorem indent_enclose_enclose (opening inner code outer closing : String) :
    indent 1 (enclose opening (enclose inner code outer) closing) =
      indent 1 (opening ++ "\n") ++ (indent 1 (indent 1 (inner ++ "\n")) ++
        indent 1 (indent 1 (indent 1 code)) ++ indent 1 (indent 1 (outer ++ "\n"))) ++
        indent 1 (closing ++ "\n") := by
  have hinner : Complete (indent 1 (inner ++ "\n")) := complete_indent 1 _
  have hcode : Complete (indent 1 (inner ++ "\n") ++ indent 1 (indent 1 code)) :=
    hinner.append (complete_indent 1 _)
  rw [indent_enclose, indent_enclose, indent_append hcode, indent_append hinner]

end Emission
end TagSchema
