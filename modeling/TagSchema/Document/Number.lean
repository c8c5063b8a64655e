import TagSchema.Document.Value

/-!
# Numbers of a document

A number without fraction and exponent that fits 64 bits is a whole number. Any other number is
real: its digits are collected in a 64-bit significand, digits that no longer fit are dropped, and
the significand is scaled by powers of ten, each step being rounded.
-/

namespace TagSchema
namespace Document

/-- Significands stay below this bound. -/
def significandBound : Nat := Nat.pow 2 64

/-- The greatest power of ten that is scaled by at once. -/
def maxPower : Nat := 308

/-- The value of a decimal digit. -/
def digitValue (c : Char) : Nat :=
  c.toNat - '0'.toNat

/-- Appends digits to a significand while it stays within its bound; gives the significand and the
number of digits that are left over. -/
def absorb (significand : Nat) : List Char → Nat × Nat
  | [] => (significand, 0)
  | c :: rest =>
    let next := significand * 10 + digitValue c
    if next < significandBound then absorb next rest else (significand, rest.length + 1)

/-- Scales a number that is not negative by a power of ten; there is no result beyond the largest
number. -/
def scale? (x : Binary64) (exponent : Int) : Option Binary64 :=
  if exponent.natAbs ≤ maxPower then
    if 0 ≤ exponent then
      let product := x.mulPowTen exponent.natAbs
      if product.isFinite then some product else none
    else
      some (x.divPowTen exponent.natAbs)
  else if x.isZero then
    some x
  else if 0 ≤ exponent then
    none
  else
    scale? (x.divPowTen maxPower) (exponent + maxPower)
termination_by exponent.natAbs
decreasing_by simp only [maxPower] at *; omega

/-- The real number with a sign, a significand and a power of ten. -/
def realOf (negative : Bool) (significand : Nat) (exponent : Int) : Except Fault Value :=
  match scale? (Binary64.ofNat significand) exponent with
  | some x => .ok (.real (if negative then x.neg else x))
  | none => .error .grammar

/-- The whole number with a sign and a magnitude, a real number where it does not fit. -/
def wholeOf (negative : Bool) (magnitude : Nat) : Value :=
  if !negative then .natural magnitude
  else if magnitude = 0 || Nat.pow 2 63 < magnitude then .real (Binary64.ofNat magnitude).neg
  else .negative magnitude

/-- The written exponent after its mark: an optional sign and digits. -/
def readExponent (text : List Char) : Except Fault (Int × List Char) :=
  let negative := text.head? == some '-'
  let unsigned := if text.head? == some '-' || text.head? == some '+' then text.tail else text
  match unsigned with
  | [] => .error .endOfText
  | c :: _ =>
    if c.isDigit then
      let digits := unsigned.takeWhile Char.isDigit
      let magnitude : Nat := digits.foldl (fun value d => value * 10 + digitValue d) 0
      .ok (if negative then -(magnitude : Int) else magnitude, unsigned.dropWhile Char.isDigit)
    else
      .error .grammar

/-- The rest of a real number from its exponent on, if it has one. -/
def finishReal (negative : Bool) (significand : Nat) (exponent : Int) (text : List Char) :
    Except Fault (Value × List Char) := do
  match text with
  | c :: rest =>
    if c = 'e' || c = 'E' then
      let (written, rest) ← readExponent rest
      return (← realOf negative significand (exponent + written), rest)
    else
      return (← realOf negative significand exponent, text)
  | [] => return (← realOf negative significand exponent, text)

/-- The rest of a number after its integer digits, of which `dropped` did not fit. -/
def finishNumber (negative : Bool) (significand dropped : Nat) (text : List Char) :
    Except Fault (Value × List Char) :=
  match text with
  | '.' :: rest =>
    let digits := rest.takeWhile Char.isDigit
    let after := rest.dropWhile Char.isDigit
    if digits.isEmpty then
      .error (if after.isEmpty then .endOfText else .grammar)
    else
      let (significand, unused) := absorb significand digits
      finishReal negative significand ((dropped : Int) - (digits.length - unused : Nat)) after
  | c :: _ =>
    if c = 'e' || c = 'E' || dropped ≠ 0 then finishReal negative significand dropped text
    else .ok (wholeOf negative significand, text)
  | [] =>
    if dropped ≠ 0 then finishReal negative significand dropped text
    else .ok (wholeOf negative significand, text)

/-- A number after its sign. A leading zero stands alone. -/
def readNumber (negative : Bool) (text : List Char) : Except Fault (Value × List Char) :=
  match text with
  | [] => .error .endOfText
  | '0' :: rest =>
    match rest with
    | c :: _ => if c.isDigit then .error .grammar else finishNumber negative 0 0 rest
    | [] => finishNumber negative 0 0 rest
  | c :: _ =>
    if c.isDigit then
      let (significand, dropped) := absorb 0 (text.takeWhile Char.isDigit)
      finishNumber negative significand dropped (text.dropWhile Char.isDigit)
    else
      .error .grammar

end Document
end TagSchema
