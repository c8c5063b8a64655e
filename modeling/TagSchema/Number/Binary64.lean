/-!
# Double-precision numbers

Defaults and limits of fields are double-precision numbers. A finite number is held as a sign, a
significand and an exponent of two, so that every operation below is exact arithmetic on natural
numbers followed by one rounding to the nearest number, ties to an even significand.
-/

namespace TagSchema

/-- A double-precision number; `finite` stands for `significand * 2 ^ exponent` with its sign. -/
inductive Binary64 where
  | nan
  | infinity (negative : Bool)
  | finite (negative : Bool) (significand : Nat) (exponent : Int)
deriving DecidableEq, Repr

namespace Binary64

/-! ## Range of the format -/

/-- Significands have at most this many bits. -/
def precision : Nat := 53

/-- The exponent of the smallest positive number. -/
def minExponent : Int := -1074

/-- The exponent of the largest numbers. -/
def maxExponent : Int := 971

/-- Zero with a sign. -/
def zero (negative : Bool) : Binary64 :=
  .finite negative 0 minExponent

/-! ## Rounding -/

/-- The quotient `num / den` in units of `2 ^ exponent`, as a numerator and a denominator. -/
def inUnits (num den : Nat) (exponent : Int) : Nat × Nat :=
  if 0 ≤ exponent then
    (num, den * Nat.pow 2 exponent.toNat)
  else
    (num * Nat.pow 2 (-exponent).toNat, den)

/-- A quotient rounded to the nearest natural number, ties to the even one. -/
def divEven (num den : Nat) : Nat :=
  let quotient := num / den
  let twice := 2 * (num % den)
  if twice < den then quotient
  else if den < twice then quotient + 1
  else quotient + quotient % 2

/-- The exponent at which a positive quotient has a significand of full precision, unless it is too
small for that. -/
def exponentFor (num den : Nat) : Int :=
  let guess : Int := (num.log2 : Int) - (den.log2 : Int) - (precision - 1 : Nat)
  let units := inUnits num den guess
  let exact := if units.1 / units.2 < Nat.pow 2 (precision - 1) then guess - 1 else guess
  max exact minExponent

/-- The number nearest to `num / den`, with a sign; beyond the largest number it is infinite. -/
def round (negative : Bool) (num den : Nat) : Binary64 :=
  if num = 0 then
    zero negative
  else
    let exponent := exponentFor num den
    let units := inUnits num den exponent
    let significand := divEven units.1 units.2
    let carried := significand = Nat.pow 2 precision
    let significand := if carried then Nat.pow 2 (precision - 1) else significand
    let exponent := if carried then exponent + 1 else exponent
    if maxExponent < exponent then
      .infinity negative
    else
      .finite negative significand exponent

/-- The number nearest to a natural number. -/
def ofNat (n : Nat) : Binary64 :=
  round false n 1

/-- The number nearest to `digits * 10 ^ exponent`, with a sign. -/
def ofDecimal (negative : Bool) (digits : Nat) (exponent : Int) : Binary64 :=
  if 0 ≤ exponent then
    round negative (digits * Nat.pow 10 exponent.toNat) 1
  else
    round negative digits (Nat.pow 10 (-exponent).toNat)

/-! ## Arithmetic -/

/-- A number with the other sign. -/
def neg : Binary64 → Binary64
  | .nan => .nan
  | .infinity negative => .infinity (!negative)
  | .finite negative significand exponent => .finite (!negative) significand exponent

/-- A finite magnitude as a numerator and a denominator. -/
def fraction (significand : Nat) (exponent : Int) : Nat × Nat :=
  if 0 ≤ exponent then
    (significand * Nat.pow 2 exponent.toNat, 1)
  else
    (significand, Nat.pow 2 (-exponent).toNat)

/-- The product with a positive power of ten, that power being itself rounded first. -/
def mulPowTen (x : Binary64) (power : Nat) : Binary64 :=
  match x, ofNat (Nat.pow 10 power) with
  | .finite negative significand exponent, .finite _ factor factorExponent =>
    let product := fraction (significand * factor) (exponent + factorExponent)
    round negative product.1 product.2
  | .finite negative _ _, _ => .infinity negative
  | x, _ => x

/-- The quotient by a positive power of ten, that power being itself rounded first. -/
def divPowTen (x : Binary64) (power : Nat) : Binary64 :=
  match x, ofNat (Nat.pow 10 power) with
  | .finite negative significand exponent, .finite _ divisor divisorExponent =>
    let quotient := fraction significand (exponent - divisorExponent)
    round negative quotient.1 (quotient.2 * divisor)
  | .finite negative _ _, _ => zero negative
  | x, _ => x

/-! ## Tests and whole numbers -/

/-- A number that is neither infinite nor undefined. -/
def isFinite : Binary64 → Bool
  | .finite _ _ _ => true
  | _ => false

/-- A zero of either sign. -/
def isZero : Binary64 → Bool
  | .finite _ significand _ => significand = 0
  | _ => false

/-- A finite number without a fraction. -/
def isWhole : Binary64 → Bool
  | .finite _ significand exponent =>
    let magnitude := fraction significand exponent
    magnitude.1 % magnitude.2 = 0
  | _ => false

/-- The whole part of a finite number, the fraction being cut off. -/
def truncate (negative : Bool) (significand : Nat) (exponent : Int) : Int :=
  let magnitude := fraction significand exponent
  let whole : Int := (magnitude.1 / magnitude.2 : Nat)
  if negative then -whole else whole

/-- The whole part of a number, kept within the range of 128-bit integers; an undefined number gives
zero. -/
def toInt128 : Binary64 → Int
  | .nan => 0
  | .infinity true => -Int.pow 2 127
  | .infinity false => Int.pow 2 127 - 1
  | .finite negative significand exponent =>
    max (-Int.pow 2 127) (min (Int.pow 2 127 - 1) (truncate negative significand exponent))

end Binary64
end TagSchema
