import TagSchema.Number.Shortest

/-!
# Decimal notation

Two written forms of a double-precision number, both with the fewest digits that read back. The
literal form always reads as a real number and turns to an exponent for very large and very small
numbers; the plain form is always positional and writes a whole number without a point.
-/

namespace TagSchema
namespace Binary64

/-- The decimal digits of a number. -/
def digitChars (n : Nat) : List Char :=
  Nat.toDigits 10 n

/-- The digits around the decimal point: the whole part, and the digits after the point. -/
structure Positional where
  whole : List Char
  after : List Char

/-- A decimal laid out around its point. -/
def Decimal.positional (d : Decimal) : Positional :=
  let digits := digitChars d.digits
  if 0 ≤ d.exponent then
    ⟨digits ++ List.replicate d.exponent.toNat '0', []⟩
  else
    let places := (-d.exponent).toNat
    if places < digits.length then
      ⟨digits.take (digits.length - places), digits.drop (digits.length - places)⟩
    else
      ⟨['0'], List.replicate (places - digits.length) '0' ++ digits⟩

/-- The exponent of the first digit of a decimal. -/
def Decimal.magnitude (d : Decimal) : Int :=
  d.exponent + ((digitChars d.digits).length - 1 : Nat)

/-- A decimal with one digit before the point and an exponent. -/
def Decimal.scientific (d : Decimal) : List Char :=
  let mark := 'e' :: (toString d.magnitude).toList
  match digitChars d.digits with
  | first :: second :: rest => first :: '.' :: second :: rest ++ mark
  | digits => digits ++ mark

/-- The least and the first too large exponent of a first digit that the literal form writes
positionally. -/
def positionalExponents : Int × Int := (-4, 16)

/-- The literal form of a positive decimal. -/
def Decimal.literal (d : Decimal) : List Char :=
  if positionalExponents.1 ≤ d.magnitude && d.magnitude < positionalExponents.2 then
    let p := d.positional
    p.whole ++ '.' :: (if p.after.isEmpty then ['0'] else p.after)
  else
    d.scientific

/-- The plain form of a positive decimal. -/
def Decimal.plain (d : Decimal) : List Char :=
  let p := d.positional
  if p.after.isEmpty then p.whole else p.whole ++ '.' :: p.after

/-- A number written with a form for its magnitude and a text for zero. -/
def write (form : Decimal → List Char) (zeroText : String) : Binary64 → String
  | .nan => "NaN"
  | .infinity negative => if negative then "-inf" else "inf"
  | .finite negative significand exponent =>
    let sign := if negative then "-" else ""
    if significand = 0 then
      sign ++ zeroText
    else
      sign ++ String.ofList (form (shortest significand exponent))

/-- The literal form of a number, which always reads as a real number. -/
def literal : Binary64 → String :=
  write Decimal.literal "0.0"

/-- The plain form of a number. -/
def plain : Binary64 → String :=
  write Decimal.plain "0"

/-- The literal forms of several numbers in brackets. -/
def literalList (values : List Binary64) : String :=
  "[" ++ String.intercalate ", " (values.map literal) ++ "]"

end Binary64
end TagSchema
