import TagSchema.Text.Lines

/-!
# Code texts

Generated code is put together from rows, each a line of text at a depth of its own, and from blocks
around a code text that is indented as a whole.
-/

namespace TagSchema
namespace Emission

open Text

/-! ## Rows -/

/-- One line of code, moved to the right by some steps. -/
structure Row where
  depth : Nat
  text : String
deriving DecidableEq, Repr

namespace Row

/-- The row one step further to the right. -/
def nest (row : Row) : Row :=
  { row with depth := row.depth + 1 }

/-- The text of a row. The blanks stand before its first character only, whatever it holds. -/
def render (row : Row) : String :=
  String.ofList (List.replicate (stepWidth * row.depth) ' ') ++ row.text ++ "\n"

end Row

/-- The row of a statement. -/
def line (text : String) : List Row :=
  [⟨0, text⟩]

/-- A block with a head, its rows one step to the right. -/
def block (head : String) (body : List Row) : List Row :=
  ⟨0, head ++ " \x7b"⟩ :: (body.map Row.nest ++ [⟨0, "\x7d"⟩])

/-- The text of some rows. -/
def render (rows : List Row) : String :=
  String.join (rows.map Row.render)

/-! ## Blocks around code -/

/-- Code between two texts, each line one step to the right. -/
def enclose (opening code closing : String) : String :=
  opening ++ "\n" ++ indent 1 code ++ closing ++ "\n"

/-- A bare block around code. -/
def scope (code : String) : String :=
  enclose "\x7b" code "\x7d"

/-- A block with a head around code. -/
def headed (head code : String) : String :=
  enclose (head ++ " \x7b") code "\x7d"

/-- A function with a signature and a body. -/
def method (signature body : String) : String :=
  headed signature body

/-- An implementation block with its items, an empty line between two of them. -/
def implBlock (head : String) (items : List String) : String :=
  headed head (String.intercalate "\n" items) ++ "\n"

end Emission
end TagSchema
