import Mathlib.Data.Nat.Cast.Field
import Mathlib.Data.Rat.Cast.Order
import Mathlib.Tactic.FieldSimp
import Mathlib.Tactic.Positivity
import TagSchema.FieldType.Initial

/-!
# What numbers stand for

A finite number stands for a rational number. The tests and conversions of whole numbers, which work
on significands and exponents, agree with it.

Main results:

- `Binary64.isWhole_iff`: the test for whole numbers.
- `Binary64.toInt128_of_value?`: the conversion of a whole number is the number itself, within 128
  bits.
- `FieldType.intHolds_iff`: the test for the values of an integer type.
-/

namespace TagSchema
namespace Binary64

/-- The rational number that a finite number stands for. -/
def value? : Binary64 → Option ℚ
  | .finite negative significand exponent =>
    some ((if negative then -1 else 1) * (significand * (2 : ℚ) ^ exponent))
  | _ => none

/-- A number is finite when it has a value. -/
theorem isFinite_iff {x : Binary64} : x.isFinite = true ↔ ∃ q, x.value? = some q := by
  cases x <;> simp [isFinite, value?]

theorem fraction_den_pos (significand : Nat) (exponent : Int) :
    0 < (fraction significand exponent).2 := by
  unfold fraction
  split
  · exact Nat.one_pos
  · exact Nat.pow_pos (by decide)

/-- The numerator and the denominator of a magnitude are those of the number that it stands for. -/
theorem fraction_eq (significand : Nat) (exponent : Int) :
    ((fraction significand exponent).1 : ℚ) / (fraction significand exponent).2 =
      significand * (2 : ℚ) ^ exponent := by
  unfold fraction
  split
  · rename_i hexponent
    obtain ⟨n, rfl⟩ := Int.eq_ofNat_of_zero_le hexponent
    simp
  · rename_i hexponent
    obtain ⟨n, hn⟩ := Int.eq_ofNat_of_zero_le (show 0 ≤ -exponent by omega)
    obtain rfl : exponent = -(n : Int) := by omega
    simp [div_eq_mul_inv]

/-- A fraction is whole when its denominator divides its numerator. -/
theorem mod_eq_zero_iff {num den : Nat} (hden : 0 < den) :
    num % den = 0 ↔ ∃ z : ℤ, (num : ℚ) / den = z := by
  have hne : (den : ℚ) ≠ 0 := by exact_mod_cast hden.ne'
  constructor
  · intro hmod
    obtain ⟨k, rfl⟩ := Nat.dvd_of_mod_eq_zero hmod
    refine ⟨k, ?_⟩
    push_cast
    field_simp
  · rintro ⟨z, hz⟩
    rw [div_eq_iff hne] at hz
    have hint : (num : ℤ) = z * den := by exact_mod_cast hz
    have hdvd : (den : ℤ) ∣ num := ⟨z, by rw [hint, mul_comm]⟩
    exact Nat.mod_eq_zero_of_dvd (Int.natCast_dvd_natCast.1 hdvd)

/-- The test for whole numbers. -/
theorem isWhole_iff {x : Binary64} : x.isWhole = true ↔ ∃ z : ℤ, x.value? = some (z : ℚ) := by
  cases x with
  | nan => simp [isWhole, value?]
  | infinity negative => simp [isWhole, value?]
  | finite negative significand exponent =>
      simp only [isWhole, decide_eq_true_eq, value?, Option.some.injEq]
      rw [mod_eq_zero_iff (fraction_den_pos significand exponent), fraction_eq]
      cases negative with
      | false => simp
      | true =>
          -- A number is whole when the number with the other sign is.
          constructor
          · rintro ⟨z, hz⟩
            exact ⟨-z, by simp [hz]⟩
          · rintro ⟨z, hz⟩
            exact ⟨-z, by push_cast; rw [← hz]; simp⟩

/-- Cutting off the fraction of a whole number changes nothing. -/
theorem truncate_of_value? {negative : Bool} {significand : Nat} {exponent z : Int}
    (h : (finite negative significand exponent).value? = some (z : ℚ)) :
    truncate negative significand exponent = z := by
  have hden := fraction_den_pos significand exponent
  have hwhole := isWhole_iff.2 ⟨z, h⟩
  simp only [isWhole, decide_eq_true_eq] at hwhole
  have hquotient :
      (((fraction significand exponent).1 / (fraction significand exponent).2 : Nat) : ℚ) =
        significand * (2 : ℚ) ^ exponent := by
    rw [Nat.cast_div (Nat.dvd_of_mod_eq_zero hwhole) (by exact_mod_cast hden.ne'), fraction_eq]
  simp only [value?, Option.some.injEq, ← hquotient] at h
  simp only [truncate]
  generalize (fraction significand exponent).1 / (fraction significand exponent).2 = whole at h ⊢
  cases negative with
  | false => exact_mod_cast (one_mul (whole : ℚ)).symm.trans h
  | true => exact_mod_cast (neg_one_mul (whole : ℚ)).symm.trans h

/-- The conversion of a whole number is the number itself, kept within 128 bits. -/
theorem toInt128_of_value? {x : Binary64} {z : ℤ} (h : x.value? = some (z : ℚ)) :
    x.toInt128 = max (-Int.pow 2 127) (min (Int.pow 2 127 - 1) z) := by
  cases x with
  | nan => cases h
  | infinity negative => cases h
  | finite negative significand exponent => rw [toInt128, truncate_of_value? h]

end Binary64

namespace FieldType

/-- An integer can be held by an integer type of a width and a sign. -/
def InRange (bits : Nat) (signed : Bool) (z : ℤ) : Prop :=
  if signed then -(2 : ℤ) ^ (bits - 1) ≤ z ∧ z < (2 : ℤ) ^ (bits - 1)
  else 0 ≤ z ∧ z < (2 : ℤ) ^ bits

/-- An integer is in range when it is between the least and the greatest one. -/
theorem inRange_iff {bits : Nat} {signed : Bool} {z : ℤ} :
    InRange bits signed z ↔ (intRange bits signed).1 ≤ z ∧ z ≤ (intRange bits signed).2 := by
  unfold InRange intRange
  split
  · exact and_congr_right fun _ => Int.le_sub_one_iff.symm
  · exact and_congr_right fun _ => Int.le_sub_one_iff.symm

/-- The range of an integer type of at most 64 bits lies well within 128 bits. -/
theorem intRange_bounds {bits : Nat} (hbits : bits ≤ 64) (signed : Bool) :
    -Int.pow 2 127 < (intRange bits signed).1 ∧ (intRange bits signed).2 < Int.pow 2 127 - 1 := by
  have hpow : ∀ n ≤ 64, (2 : ℤ) ^ n ≤ 2 ^ 64 := fun n hn => pow_le_pow_right₀ (by norm_num) hn
  have hwide := hpow bits hbits
  have hhalf := hpow (bits - 1) (by omega)
  have hpositive : (0 : ℤ) < 2 ^ (bits - 1) := by positivity
  unfold intRange
  split
  · change -(2 : ℤ) ^ 127 < -(2 : ℤ) ^ (bits - 1) ∧ (2 : ℤ) ^ (bits - 1) - 1 < (2 : ℤ) ^ 127 - 1
    omega
  · change -(2 : ℤ) ^ 127 < 0 ∧ (2 : ℤ) ^ bits - 1 < (2 : ℤ) ^ 127 - 1
    omega

/-- An integer of the range of a type is converted to itself. -/
theorem toInt128_of_inRange {bits : Nat} (hbits : bits ≤ 64) {signed : Bool} {x : Binary64} {z : ℤ}
    (hvalue : x.value? = some (z : ℚ)) (hrange : InRange bits signed z) : x.toInt128 = z := by
  have hbounds := intRange_bounds hbits signed
  rw [inRange_iff] at hrange
  rw [Binary64.toInt128_of_value? hvalue]
  omega

/-- A number is held by an integer type when it stands for an integer of its range. -/
theorem intHolds_iff {bits : Nat} (hbits : bits ≤ 64) {signed : Bool} {x : Binary64} :
    intHolds bits signed x = true ↔ ∃ z : ℤ, x.value? = some (z : ℚ) ∧ InRange bits signed z := by
  have hbounds := intRange_bounds hbits signed
  simp only [intHolds, Bool.and_eq_true, decide_eq_true_eq, Binary64.isWhole_iff, and_assoc]
  constructor
  · rintro ⟨⟨z, hz⟩, hlow, hhigh⟩
    rw [Binary64.toInt128_of_value? hz] at hlow hhigh
    exact ⟨z, hz, inRange_iff.2 (by omega)⟩
  · rintro ⟨z, hz, hrange⟩
    rw [toInt128_of_inRange hbits hz hrange]
    exact ⟨⟨z, hz⟩, inRange_iff.1 hrange⟩

end FieldType
end TagSchema
