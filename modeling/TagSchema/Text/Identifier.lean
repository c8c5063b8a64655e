import TagSchema.Text.Blank
import TagSchema.Text.Letter

/-!
# Identifiers

A name of the definitions becomes an identifier of the generated code when it reads as exactly one
identifier token. Blanks and comments may stand around the token; the name is then kept as it is. A
keyword is written as a raw identifier, with a mark in front.
-/

namespace TagSchema
namespace Text
namespace Identifier

/-! ## What may stand around a token -/

/-- A blank between tokens: white space or a mark of the writing direction. -/
def isGap (c : Char) : Bool :=
  isBlank c || c = '\u200e' || c = '\u200f'

/-- The text after a block comment of which `depth` levels are open. -/
def afterBlock (depth : Nat) : List Char → Option (List Char)
  | [] => none
  | '/' :: '*' :: rest => afterBlock (depth + 1) rest
  | '*' :: '/' :: rest => if depth ≤ 1 then some rest else afterBlock (depth - 1) rest
  | _ :: rest => afterBlock depth rest

/-- The text after one blank or comment at its front. Documentation comments are tokens and are not
skipped. -/
def afterGap : List Char → Option (List Char)
  | '/' :: '/' :: '!' :: _ => none
  | '/' :: '/' :: '/' :: '/' :: rest => some (rest.dropWhile (· ≠ '\n'))
  | '/' :: '/' :: '/' :: _ => none
  | '/' :: '/' :: rest => some (rest.dropWhile (· ≠ '\n'))
  | '/' :: '*' :: '*' :: '/' :: rest => some rest
  | '/' :: '*' :: '!' :: _ => none
  | '/' :: '*' :: '*' :: '*' :: rest => afterBlock 1 ('*' :: '*' :: rest)
  | '/' :: '*' :: '*' :: _ => none
  | '/' :: '*' :: rest => afterBlock 1 rest
  | c :: rest => if isGap c then some rest else none
  | [] => none

/-- Skips blanks and comments, at most as many as `bound`. -/
def skipGapsWithin : Nat → List Char → List Char
  | 0, text => text
  | bound + 1, text =>
    match afterGap text with
    | some rest => skipGapsWithin bound rest
    | none => text

/-- The text after the blanks and comments at its front. -/
def skipGaps (text : List Char) : List Char :=
  skipGapsWithin text.length text

/-! ## The token -/

/-- A word: a character that starts an identifier, then characters that continue one. -/
def takeWord : List Char → Option (List Char × List Char)
  | [] => none
  | c :: rest =>
    if startsIdentifier c then
      some (c :: rest.takeWhile continuesIdentifier, rest.dropWhile continuesIdentifier)
    else
      none

/-- Words that no raw identifier may spell. -/
def neverRaw : List String := ["_", "super", "self", "Self", "crate"]

/-- Words that are not plain identifiers. -/
def keywords : List String := [
  "_", "abstract", "as", "async", "await", "become", "box", "break", "const", "continue", "crate",
  "do", "dyn", "else", "enum", "extern", "false", "final", "fn", "for", "if", "impl", "in", "let",
  "loop", "macro", "match", "mod", "move", "mut", "override", "priv", "pub", "ref", "return", "Self",
  "self", "static", "struct", "super", "trait", "true", "try", "type", "typeof", "unsafe", "unsized",
  "use", "virtual", "where", "while", "yield"]

/-- Takes an identifier token, plain or raw, from the front of a text. -/
def takeToken : List Char → Option (List Char)
  | 'r' :: '#' :: text =>
    match takeWord text with
    | some (word, rest) => if String.ofList word ∈ neverRaw then none else some rest
    | none => none
  | text =>
    match takeWord text with
    | some (word, rest) => if String.ofList word ∈ keywords then none else some rest
    | none => none

/-- Drops a byte order mark from the front of a text. -/
def dropMark : List Char → List Char
  | '\ufeff' :: text => text
  | text => text

/-- A text that reads as exactly one identifier token. -/
def isToken (text : List Char) : Bool :=
  match takeToken (skipGaps (dropMark text)) with
  | some rest => (skipGaps rest).isEmpty
  | none => false

end Identifier

/-- The identifier that spells a name: the name itself, or the name as a raw identifier. -/
def identifier? (name : String) : Option String :=
  if Identifier.isToken name.toList then
    some name
  else if Identifier.isToken ('r' :: '#' :: name.toList) then
    some ("r#" ++ name)
  else
    none

end Text
end TagSchema
