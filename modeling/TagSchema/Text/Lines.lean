/-!
# Lines and indentation

A text is a sequence of lines. A line ends at a newline, and a carriage return right before the
newline belongs to the line end. Indentation cuts a text into its lines and writes them again, each
line that is not empty moved to the right by a number of steps.
-/

namespace TagSchema
namespace Text

/-! ## Cutting a text into lines -/

/-- Drops a carriage return from the end of a line that is held in reverse. -/
def dropReturn : List Char → List Char
  | '\r' :: held => held
  | held => held

/-- The lines of a text after the characters `held`, in reverse, of a line that is still open. -/
def linesFrom (held : List Char) : List Char → List (List Char)
  | [] => if held.isEmpty then [] else [held.reverse]
  | c :: rest =>
    if c = '\n' then
      (dropReturn held).reverse :: linesFrom [] rest
    else
      linesFrom (c :: held) rest

/-- The lines of a text; a last line without a newline counts when it is not empty. -/
def lines (text : String) : List String :=
  (linesFrom [] text.toList).map String.ofList

/-! ## Indentation -/

/-- Blanks that one step of indentation puts before a line. -/
def stepWidth : Nat := 4

/-- A line moved to the right, with its newline; an empty line stays empty. -/
def indentLine (levels : Nat) (line : List Char) : List Char :=
  if line.isEmpty then
    ['\n']
  else
    List.replicate (stepWidth * levels) ' ' ++ line ++ ['\n']

/-- Every line of a code text moved to the right by `levels` steps. -/
def indent (levels : Nat) (code : String) : String :=
  String.ofList ((linesFrom [] code.toList).flatMap (indentLine levels))

end Text
end TagSchema
