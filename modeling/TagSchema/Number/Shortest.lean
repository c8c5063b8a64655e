import TagSchema.Number.Binary64

/-!
# The fewest digits that read back

A positive double-precision number is written with the fewest decimal digits that still round to
it. On each decimal grid, from the coarsest to the finest, the two neighbours of the number are
tested against the interval of reals that round to it; the first grid with a hit wins, and of two
hits the nearer one, the greater one on a tie.
-/

namespace TagSchema
namespace Binary64

/-- A positive decimal number: `digits * 10 ^ exponent`. -/
structure Decimal where
  digits : Nat
  exponent : Int
deriving DecidableEq, Repr

/-- The greatest number of digits that is ever needed. -/
def maxDigits : Nat := 17

/-- The reals that round to a positive number, and the number, over one denominator. The interval is
closed when the significand is even; below a significand that is a power of two it is half as wide. -/
structure Interval where
  low : Nat
  value : Nat
  high : Nat
  den : Nat
  closed : Bool

/-- The interval of the reals that round to `significand * 2 ^ exponent`. -/
def Interval.around (significand : Nat) (exponent : Int) : Interval :=
  let below := if significand = Nat.pow 2 (precision - 1) then 1 else 2
  let closed := significand % 2 == 0
  if 2 ≤ exponent then
    let unit := Nat.pow 2 (exponent - 2).toNat
    ⟨(4 * significand - below) * unit, 4 * significand * unit, (4 * significand + 2) * unit, 1, closed⟩
  else
    ⟨4 * significand - below, 4 * significand, 4 * significand + 2,
      Nat.pow 2 (2 - exponent).toNat, closed⟩

/-- A decimal as a numerator and a denominator. -/
def Decimal.fraction (d : Decimal) : Nat × Nat :=
  if 0 ≤ d.exponent then
    (d.digits * Nat.pow 10 d.exponent.toNat, 1)
  else
    (d.digits, Nat.pow 10 (-d.exponent).toNat)

/-- A decimal rounds to the number when it lies in the interval. -/
def Interval.holds (i : Interval) (d : Decimal) : Bool :=
  let point := d.fraction
  let left := i.low * point.2
  let middle := point.1 * i.den
  let right := i.high * point.2
  if i.closed then left ≤ middle && middle ≤ right else left < middle && middle < right

/-- The greatest multiple of `10 ^ exponent` that is not above the number. -/
def Interval.floorOn (i : Interval) (exponent : Int) : Decimal :=
  if 0 ≤ exponent then
    ⟨i.value / (i.den * Nat.pow 10 exponent.toNat), exponent⟩
  else
    ⟨i.value * Nat.pow 10 (-exponent).toNat / i.den, exponent⟩

/-- The number is at least as near to the grid point above `lower` as to `lower` itself. -/
def Interval.nearerAbove (i : Interval) (lower : Decimal) : Bool :=
  let point := Decimal.fraction ⟨2 * lower.digits + 1, lower.exponent⟩
  point.1 * i.den ≤ 2 * i.value * point.2

/-- The hit on one decimal grid, if there is one. -/
def Interval.hitOn (i : Interval) (exponent : Int) : Option Decimal :=
  let lower := i.floorOn exponent
  let upper : Decimal := ⟨lower.digits + 1, exponent⟩
  match i.holds lower, i.holds upper with
  | true, true => some (if i.nearerAbove lower then upper else lower)
  | true, false => some lower
  | false, true => some upper
  | false, false => none

/-- The exponent of the leading digit: the greatest `k` with `10 ^ k` not above the number, found
near an estimate from the binary exponent. -/
def Interval.leading (i : Interval) : Int :=
  let guess : Int := ((i.value.log2 : Int) - (i.den.log2 : Int)) * 30103 / 100000
  if 0 < (i.floorOn (guess + 1)).digits then guess + 1
  else if 0 < (i.floorOn guess).digits then guess
  else guess - 1

/-- A decimal without zeros at its end, at most `bound` of them being dropped. -/
def Decimal.trim : Nat → Decimal → Decimal
  | 0, d => d
  | bound + 1, d =>
    if d.digits % 10 = 0 then Decimal.trim bound ⟨d.digits / 10, d.exponent + 1⟩ else d

/-- The decimal with the fewest digits that rounds to a positive number. -/
def shortest (significand : Nat) (exponent : Int) : Decimal :=
  let i := Interval.around significand exponent
  let top := i.leading
  let grids := (List.range maxDigits).map fun (n : Nat) => top - n
  ((grids.findSome? i.hitOn).getD (i.floorOn (top - maxDigits))).trim (maxDigits + 1)

end Binary64
end TagSchema
