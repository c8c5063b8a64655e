/-!
# Declared types

The type of a field is declared by a tag. A few tags are keywords, a tag such as `uint16` is an
integer type, and every other tag names an enum, a bitfield, a struct or a type of the registry.
-/

namespace TagSchema

/-- The type that a field is declared with. -/
inductive DeclaredType where
  | int (bits : Nat) (signed : Bool)
  | float
  | dependency
  | reflexive
  | data
  | pad
  | named (tag : String)
deriving DecidableEq, Repr

namespace DeclaredType

/-- Widths are read as bytes: numbers from here on do not fit. -/
def byteBound : Nat := 256

/-- A byte with one more decimal digit behind it; nothing when the character is no digit or the number
does not fit any more. -/
def appendDigit? (value : Nat) (c : Char) : Option Nat :=
  if c.isDigit then
    let next := 10 * value + (c.toNat - '0'.toNat)
    if next < byteBound then some next else none
  else
    none

/-- The byte that a run of decimal digits stands for; the run must not be empty. -/
def byte? (digits : List Char) : Option Nat :=
  if digits.isEmpty then none else digits.foldlM appendDigit? 0

/-- The number that a width is written with: digits after an optional plus sign. -/
def widthValue? : List Char → Option Nat
  | '+' :: digits => byte? digits
  | digits => byte? digits

/-- Widths that integer types may have. -/
def widths : List Nat := [8, 16, 32, 64]

/-- The integer width that a text spells. -/
def width? (text : List Char) : Option Nat :=
  (widthValue? text).filter (widths.contains ·)

/-- The sign and the spelled width of a tag that starts like an integer type. -/
def integerParts? : List Char → Option (Bool × List Char)
  | 'u' :: 'i' :: 'n' :: 't' :: width => some (false, width)
  | 'i' :: 'n' :: 't' :: width => some (true, width)
  | _ => none

/-- The integer type that a tag spells. -/
def integer? (tag : String) : Option DeclaredType := do
  let (signed, spelled) ← integerParts? tag.toList
  let bits ← width? spelled
  return .int bits signed

/-- The type that a tag declares. -/
def ofTag (tag : String) : DeclaredType :=
  if tag = "float" then .float
  else if tag = "TagDependency" then .dependency
  else if tag = "TagReflexive" then .reflexive
  else if tag = "TagDataOffset" then .data
  else if tag = "pad" then .pad
  else (integer? tag).getD (.named tag)

end DeclaredType
end TagSchema
