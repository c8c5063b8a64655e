/-!
# Ranges of code points

Character classes are given as lists of inclusive ranges of code points in increasing order.
-/

namespace TagSchema
namespace Text

/-- An inclusive range of code points, given by its first and last member. -/
abbrev CodeRange := Nat × Nat

/-- A range holds a character when its code point lies between the two ends. -/
def CodeRange.holds (range : CodeRange) (c : Char) : Bool :=
  range.1 ≤ c.toNat && c.toNat ≤ range.2

/-- A class holds a character when one of its ranges does. -/
def inClass (ranges : List CodeRange) (c : Char) : Bool :=
  ranges.any (·.holds c)

end Text
end TagSchema
