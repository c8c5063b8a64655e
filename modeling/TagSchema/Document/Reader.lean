import TagSchema.Document.Number

/-!
# Reading a document

A document is read from left to right and the first fault wins. Every reader takes what is left of
the text and gives a value with what is left after it. Lists and objects are folded item by item, so
that a reader of definitions can look at an item as soon as it is read.
-/

namespace TagSchema
namespace Document

/-- The deepest nesting of lists and objects that a document may have. -/
def nestingLimit : Nat := 127

/-- The blanks between the parts of a document. -/
def isSpace (c : Char) : Bool :=
  c = ' ' || c = '\n' || c = '\t' || c = '\r'

/-- The text after the blanks at its front. -/
def skipSpaces (text : List Char) : List Char :=
  text.dropWhile isSpace

/-! ## Words and strings -/

/-- The text after an expected word. -/
def expectWord : List Char → List Char → Except Fault (List Char)
  | [], text => .ok text
  | _ :: _, [] => .error .endOfText
  | expected :: word, c :: rest => if c = expected then expectWord word rest else .error .grammar

/-- The value of a hexadecimal digit. -/
def hexValue? (c : Char) : Option Nat :=
  if c.isDigit then some (c.toNat - '0'.toNat)
  else if 'a' ≤ c && c ≤ 'f' then some (c.toNat - 'a'.toNat + 10)
  else if 'A' ≤ c && c ≤ 'F' then some (c.toNat - 'A'.toNat + 10)
  else none

/-- Four hexadecimal digits. A text with fewer than four bytes ends too early, whatever it holds. -/
def readHexUnit (text : List Char) : Except Fault (Nat × List Char) :=
  if (String.ofList (text.take 4)).utf8ByteSize < 4 then
    .error .endOfText
  else
    match (text.take 4).mapM hexValue? with
    | some [a, b, c, d] => .ok (((a * 16 + b) * 16 + c) * 16 + d, text.drop 4)
    | _ => .error .grammar

/-- A unit that stands for the upper half of a character outside the basic plane. -/
def isHighUnit (unit : Nat) : Bool :=
  0xd800 ≤ unit && unit ≤ 0xdbff

/-- A unit that stands for the lower half of a character outside the basic plane. -/
def isLowUnit (unit : Nat) : Bool :=
  0xdc00 ≤ unit && unit ≤ 0xdfff

/-- The character that two halves stand for. -/
def joinUnits (high low : Nat) : Char :=
  Char.ofNat (0x10000 + (high - 0xd800) * 0x400 + (low - 0xdc00))

/-- A character given by code units, after its mark; halves come in pairs. -/
def readUnits (text : List Char) : Except Fault (Char × List Char) := do
  let (unit, rest) ← readHexUnit text
  if isLowUnit unit then
    throw .grammar
  else if isHighUnit unit then
    match rest with
    | [] => throw .endOfText
    | ['\\'] => throw .endOfText
    | '\\' :: 'u' :: rest =>
      let (low, rest) ← readHexUnit rest
      if isLowUnit low then return (joinUnits unit low, rest) else throw .grammar
    | _ => throw .grammar
  else
    return (Char.ofNat unit, rest)

/-- The character of an escape, after the backslash. -/
def readEscape : List Char → Except Fault (Char × List Char)
  | [] => .error .endOfText
  | c :: rest =>
    if c = '"' || c = '\\' || c = '/' then .ok (c, rest)
    else if c = 'b' then .ok ('\x08', rest)
    else if c = 'f' then .ok ('\x0c', rest)
    else if c = 'n' then .ok ('\n', rest)
    else if c = 'r' then .ok ('\r', rest)
    else if c = 't' then .ok ('\t', rest)
    else if c = 'u' then readUnits rest
    else .error .grammar

/-- The characters of a string up to its closing quote, after the characters `held` in reverse; a
text of length `bound` is read to its end. -/
def readStringWithin : Nat → List Char → List Char → Except Fault (String × List Char)
  | 0, _, _ => .error .endOfText
  | _ + 1, _, [] => .error .endOfText
  | bound + 1, held, c :: rest =>
    if c = '"' then .ok (String.ofList held.reverse, rest)
    else if c = '\\' then
      match readEscape rest with
      | .ok (character, rest) => readStringWithin bound (character :: held) rest
      | .error fault => .error fault
    else if c.toNat < 0x20 then .error .grammar
    else readStringWithin bound (c :: held) rest

/-- A string after its opening quote. -/
def readString (text : List Char) : Except Fault (String × List Char) :=
  readStringWithin (text.length + 1) [] text

/-- A value that is neither a list nor an object. -/
def readScalar : List Char → Except Fault (Value × List Char)
  | [] => .error .endOfText
  | 'n' :: rest => do return (.null, ← expectWord ['u', 'l', 'l'] rest)
  | 't' :: rest => do return (.bool true, ← expectWord ['r', 'u', 'e'] rest)
  | 'f' :: rest => do return (.bool false, ← expectWord ['a', 'l', 's', 'e'] rest)
  | '-' :: rest => readNumber true rest
  | '"' :: rest => do
    let (s, rest) ← readString rest
    return (.text s, rest)
  | c :: rest => if c.isDigit then readNumber false (c :: rest) else .error .grammar

/-! ## Lists and objects -/

/-- Folds a step over the items of a list, after its opening bracket; a text shorter than `bound` is
read to its end. -/
def foldItemsWithin {σ : Type} (step : σ → List Char → Except Fault (σ × List Char)) :
    Nat → Bool → σ → List Char → Except Fault (σ × List Char)
  | 0, _, _, _ => .error .endOfText
  | bound + 1, first, state, text =>
    match skipSpaces text with
    | [] => .error .endOfText
    | ']' :: rest => .ok (state, rest)
    | c :: rest =>
      if first then do
        let (state, rest) ← step state (c :: rest)
        foldItemsWithin step bound false state rest
      else if c = ',' then
        match skipSpaces rest with
        | [] => .error .endOfText
        | ']' :: _ => .error .grammar
        | item => do
          let (state, rest) ← step state item
          foldItemsWithin step bound false state rest
      else
        .error .grammar

/-- Folds a step over the items of a list, after its opening bracket. -/
def foldItems {σ : Type} (step : σ → List Char → Except Fault (σ × List Char)) (start : σ)
    (text : List Char) : Except Fault (σ × List Char) :=
  foldItemsWithin step (text.length + 1) true start text

/-- Folds a step over the members of an object, after its opening bracket. The step gets the key and
the text from the colon on. -/
def foldMembersWithin {σ : Type} (step : σ → String → List Char → Except Fault (σ × List Char)) :
    Nat → Bool → σ → List Char → Except Fault (σ × List Char)
  | 0, _, _, _ => .error .endOfText
  | bound + 1, first, state, text =>
    let member (item : List Char) : Except Fault (σ × List Char) :=
      match item with
      | '"' :: rest => do
        let (key, rest) ← readString rest
        let (state, rest) ← step state key rest
        foldMembersWithin step bound false state rest
      | _ => .error .grammar
    match skipSpaces text with
    | [] => .error .endOfText
    | '\x7d' :: rest => .ok (state, rest)
    | c :: rest =>
      if first then
        member (c :: rest)
      else if c = ',' then
        match skipSpaces rest with
        | [] => .error .endOfText
        | item => member item
      else
        .error .grammar

/-- Folds a step over the members of an object, after its opening bracket. -/
def foldMembers {σ : Type} (step : σ → String → List Char → Except Fault (σ × List Char))
    (start : σ) (text : List Char) : Except Fault (σ × List Char) :=
  foldMembersWithin step (text.length + 1) true start text

/-- The text after the colon of a member. -/
def skipColon (text : List Char) : Except Fault (List Char) :=
  match skipSpaces text with
  | [] => .error .endOfText
  | ':' :: rest => .ok rest
  | _ => .error .grammar

/-- A value with at most `depth` lists and objects around each other. -/
def readValue (depth : Nat) (text : List Char) : Except Fault (Value × List Char) :=
  match depth, skipSpaces text with
  | 0, '[' :: _ => .error .grammar
  | 0, '\x7b' :: _ => .error .grammar
  | inner + 1, '[' :: rest => do
    let (items, rest) ← foldItems (fun items text => do
      let (item, rest) ← readValue inner text
      return (item :: items, rest)) [] rest
    return (.list items.reverse, rest)
  | inner + 1, '\x7b' :: rest => do
    let (members, rest) ← foldMembers (fun members key text => do
      let (value, rest) ← readValue inner (← skipColon text)
      return ((key, value) :: members, rest)) [] rest
    return (.object members.reverse, rest)
  | _, text => readScalar text

end Document
end TagSchema
