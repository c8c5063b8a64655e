import Mathlib.Algebra.Order.Field.Power
import Mathlib.Tactic.Linarith
import TagSchema.FieldType.Resolution
import TagSchema.Proofs.SpreadDefaults

/-!
# Defaults of single precision

Fields of real numbers hold single-precision numbers, while their defaults are double-precision
numbers. A default is accepted when its numbers are finite. Whether they are also in the range of
single precision is not looked at: an accepted default is written number by number, and those beyond
the range become infinite.

Main results:

- `Binary64.overflowsSingle_iff`: the magnitudes that rounding to single precision makes infinite.
- `Spread.mem_singles_iff`: the numbers that are written are those of the default.
- `FieldDef.float_default_needs_range`: what an accepted default means for the numbers that are
  written.
-/

namespace TagSchema
namespace Binary64

/-! ## Range of single precision -/

/-- Significands of single-precision numbers have at most this many bits. -/
def singlePrecision : Nat := 24

/-- The exponent of the largest single-precision numbers. -/
def singleMaxExponent : Nat := 104

/-- The nearest single-precision number is infinite: rounded in units of the largest exponent, the
significand has too many bits. -/
def overflowsSingle : Binary64 → Bool
  | .nan => false
  | .infinity _ => true
  | .finite _ significand exponent =>
    let magnitude := fraction significand exponent
    Nat.pow 2 singlePrecision ≤ divEven magnitude.1 (magnitude.2 * Nat.pow 2 singleMaxExponent)

/-- A quotient rounds to an even number or beyond it from half a unit below that number on. -/
theorem le_divEven_iff {num den bound : Nat} (hden : 0 < den) (heven : bound % 2 = 0) :
    bound ≤ divEven num den ↔ 2 * (den * bound) ≤ 2 * num + den := by
  have hmod : num % den < den := Nat.mod_lt num hden
  have hnum : den * (num / den) + num % den = num := Nat.div_add_mod num den
  unfold divEven
  generalize num / den = quotient at hnum ⊢
  generalize num % den = rest at hmod hnum ⊢
  subst hnum
  rcases Nat.lt_trichotomy bound (quotient + 1) with hbelow | rfl | habove
  · -- the bound is reached without rounding up
    have hprod : den * bound ≤ den * quotient := Nat.mul_le_mul_left den (by omega)
    dsimp only
    split
    · omega
    · split <;> omega
  · rw [Nat.mul_add]
    dsimp only
    split
    · omega
    · split <;> omega
  · have hprod : den * (quotient + 2) ≤ den * bound := Nat.mul_le_mul_left den habove
    rw [Nat.mul_add] at hprod
    dsimp only
    split
    · omega
    · split <;> omega

/-- The size of a finite number, as a fraction. -/
theorem abs_of_value? {negative : Bool} {significand : Nat} {exponent : Int} {q : ℚ}
    (h : (finite negative significand exponent).value? = some q) :
    |q| = ((fraction significand exponent).1 : ℚ) / (fraction significand exponent).2 := by
  have hmagnitude : (0 : ℚ) ≤ significand * (2 : ℚ) ^ exponent := by positivity
  rw [value?, Option.some.injEq] at h
  rw [fraction_eq, ← h, abs_mul, abs_of_nonneg hmagnitude]
  cases negative <;> simp

/-- A number becomes infinite from halfway between the largest single-precision number and the next
power of two on. -/
theorem overflowsSingle_iff {x : Binary64} {q : ℚ} (h : x.value? = some q) :
    x.overflowsSingle = true ↔ 2 ^ 128 - 2 ^ 103 ≤ |q| := by
  cases x with
  | nan => cases h
  | infinity negative => cases h
  | finite negative significand exponent =>
      have hden := fraction_den_pos significand exponent
      have hunits : 0 < (fraction significand exponent).2 * Nat.pow 2 singleMaxExponent :=
        Nat.mul_pos hden (Nat.pow_pos (by decide))
      rw [abs_of_value? h, le_div_iff₀ (by exact_mod_cast hden), overflowsSingle]
      simp only [decide_eq_true_eq]
      rw [le_divEven_iff hunits (by decide)]
      generalize (fraction significand exponent).1 = num
      generalize (fraction significand exponent).2 = den
      have hcast : 2 * (den * Nat.pow 2 singleMaxExponent * Nat.pow 2 singlePrecision) ≤
          2 * num + den * Nat.pow 2 singleMaxExponent ↔
          (2 : ℚ) * (den * 2 ^ 104 * 2 ^ 24) ≤ 2 * num + den * 2 ^ 104 := by
        exact_mod_cast Iff.rfl
      rw [hcast]
      constructor
      · intro hle
        linarith
      · intro hle
        linarith

end Binary64

/-- The numbers of a default. -/
def DefaultValue.numbers : DefaultValue → List Binary64
  | scalar x => [x]
  | vector xs => xs

/-! ## Numbers that are written -/

/-- The number that a leaf writes as a single-precision literal. -/
def Leaf.single? : Leaf → Option Binary64
  | ⟨.float, .explicit (.scalar x)⟩ => some x
  | _ => none

/-- A number in single precision is written with its suffix. -/
theorem Leaf.text_of_single? {leaf : Leaf} {x : Binary64} (h : leaf.single? = some x) :
    leaf.text = x.literal ++ "f32" := by
  unfold single? at h
  split at h
  · cases h
    rfl
  · cases h

namespace Spread

/-- The numbers that a spread writes as single-precision literals, in the order in which they
stand. -/
def singles (spread : Spread) : List Binary64 :=
  spread.leaves.filterMap Leaf.single?

theorem singles_pair (low high : Spread) : (pair low high).singles = low.singles ++ high.singles :=
  List.filterMap_append

theorem singles_items (numbers : List Binary64) :
    (items (numbers.map fun x => ⟨.float, .explicit (.scalar x)⟩)).singles = numbers := by
  rw [singles, leaves, List.filterMap_map]
  exact List.filterMap_some

/-- A plain number with a floating base is floating. -/
theorem eq_float_of_isNumber {type : FieldType} (h : type.isNumber = true)
    (hbase : type.base = .float) : type = .float := by
  cases type with
  | float => rfl
  | int bits signed => cases hbase
  | _ => cases h

/-- Of a default of real numbers that fits, every leaf is written as a single-precision literal. -/
theorem map_text_leaves {type : FieldType} (hbase : type.base = .float) {value : DefaultValue}
    (hfits : type.fits value = true) :
    (of type (.explicit value)).leaves.map Leaf.text =
      (of type (.explicit value)).singles.map fun x => x.literal ++ "f32" := by
  have hwidths : ∀ bits signed, type.base = .int bits signed → bits ≤ 64 := by
    intro bits signed hint
    rw [hbase] at hint
    cases hint
  have hsuits := (FieldType.fits_iff_suits hwidths value).1 hfits
  have hsingle : ∀ leaf ∈ (of type (.explicit value)).leaves, ∃ x, leaf.single? = some x := by
    intro leaf hleaf
    have hsuit := hsuits leaf hleaf
    have htype := type_of_mem_leaves hleaf
    rw [hbase] at htype
    obtain ⟨leafType, leafValue⟩ := leaf
    cases htype
    rcases hsuit with ⟨x, rfl, _⟩
    exact ⟨x, rfl⟩
  unfold singles
  clear hsuits
  generalize (of type (.explicit value)).leaves = leaves at hsingle ⊢
  induction leaves with
  | nil => rfl
  | cons leaf leaves ih =>
      rw [List.forall_mem_cons] at hsingle
      rcases hsingle with ⟨⟨x, hx⟩, hrest⟩
      rw [List.map_cons, List.filterMap_cons_some hx, List.map_cons, Leaf.text_of_single? hx,
        ih hrest]

/-- The numbers that are written of a default of real numbers that fits are the numbers of the
default. -/
theorem mem_singles_iff {type : FieldType} (hbase : type.base = .float) {value : DefaultValue}
    (hfits : type.fits value = true) {x : Binary64} :
    x ∈ (of type (.explicit value)).singles ↔ x ∈ value.numbers := by
  induction type generalizing value with
  | float =>
      cases value with
      | scalar y => rfl
      | vector values => cases hfits
  | array inner length ih =>
      cases hspread : (InitialValue.explicit value).spreadArray? inner length with
      | none =>
          rw [FieldType.fits_array_of_none hspread] at hfits
          simp only [of, hspread]
          exact ih hbase hfits
      | some numbers =>
          rcases InitialValue.spreadArray?_eq_some_iff.1 hspread with ⟨hvalue, hnumber, _⟩
          cases hvalue
          obtain rfl := eq_float_of_isNumber hnumber hbase
          simp only [of, hspread, singles_items]
          rfl
  | bounds inner ih =>
      cases hspread : (InitialValue.explicit value).spreadBounds? with
      | none =>
          rw [FieldType.fits_bounds_of_none hspread] at hfits
          simp only [of, hspread, singles_pair, List.mem_append, or_self]
          exact ih hbase hfits
      | some ends =>
          rcases ends with ⟨low, high⟩
          have hvalue := InitialValue.spreadBounds?_eq_some_iff.1 hspread
          cases hvalue
          rw [FieldType.fits_bounds_of_some hspread, Bool.and_eq_true] at hfits
          simp only [of, hspread, singles_pair, List.mem_append, ih hbase hfits.1, ih hbase hfits.2]
          simp [DefaultValue.numbers]
  | flagged inner ih => exact ih hbase hfits
  | _ => cases hbase

end Spread

/-! ## Acceptance -/

namespace FieldType

/-- A vector of a length is spread over a type: over an array of as many numbers, or over a pair. -/
def takesVector : FieldType → Nat → Bool
  | array inner length, n => (inner.isNumber && n = length) || inner.takesVector n
  | bounds inner, n => n = 2 || inner.takesVector n
  | flagged inner, n => inner.takesVector n
  | _, _ => false

/-- A default has a shape that a type of numbers takes: any scalar, and the vectors that are
spread. -/
def takesShape (type : FieldType) : DefaultValue → Bool
  | .scalar _ => true
  | .vector values => type.takesVector values.length

/-- A single value fits a floating type when it is finite. -/
theorem fits_scalar {type : FieldType} (hbase : type.base = .float) (x : Binary64) :
    type.fits (.scalar x) = x.isFinite := by
  induction type with
  | float => rfl
  | array inner length ih => exact ih hbase
  | bounds inner ih => exact ih hbase
  | flagged inner ih => exact ih hbase
  | _ => cases hbase

/-- Several values fit a floating type that takes as many, when all of them are finite. -/
theorem fits_vector {type : FieldType} (hbase : type.base = .float) (values : List Binary64) :
    type.fits (.vector values) =
      (type.takesVector values.length && values.all Binary64.isFinite) := by
  induction type with
  | float => rfl
  | array inner length ih =>
      rw [fits, takesVector]
      cases hspread : inner.isNumber && decide (values.length = length) with
      | true =>
          rw [if_pos rfl, Bool.true_or, Bool.true_and]
          exact congrArg values.all (funext (fits_scalar hbase))
      | false => rw [if_neg Bool.false_ne_true, Bool.false_or, ih hbase]
  | bounds inner ih =>
      by_cases hpair : values.length = 2
      · obtain ⟨low, high, rfl⟩ := List.length_eq_two.1 hpair
        have hinner : ∀ x, inner.fits (.scalar x) = x.isFinite := fits_scalar hbase
        simp [fits, takesVector, hinner]
      · have hwhole : (InitialValue.explicit (.vector values)).spreadBounds? = none := by
          unfold InitialValue.spreadBounds?
          split
          · rename_i hvalue
            cases hvalue
            exact absurd rfl hpair
          · rfl
        rw [fits_bounds_of_none hwhole, ih hbase, takesVector, decide_eq_false hpair, Bool.false_or]
  | flagged inner ih => exact ih hbase
  | _ => cases hbase

/-- A default of real numbers fits if its shape does and its numbers are finite. -/
theorem fits_float_iff {type : FieldType} (hbase : type.base = .float) (value : DefaultValue) :
    type.fits value = true ↔
      type.takesShape value = true ∧ ∀ x ∈ value.numbers, x.isFinite = true := by
  cases value with
  | scalar x => simp [fits_scalar hbase, takesShape, DefaultValue.numbers]
  | vector values =>
      rw [fits_vector hbase, Bool.and_eq_true, List.all_eq_true]
      rfl

/-- The numbers of a default of real numbers as they are written. -/
structure WritesSingles (type : FieldType) (value : DefaultValue) : Prop where
  /-- The expression of the default is its spread over the type. -/
  expression :
    InitialValue.expression type (.explicit value) = (Spread.of type (.explicit value)).text
  /-- Every leaf of the spread is a literal of a number. -/
  literals : (Spread.of type (.explicit value)).leaves.map Leaf.text =
    (Spread.of type (.explicit value)).singles.map fun x => x.literal ++ "f32"
  /-- The numbers are those of the default. -/
  numbers : ∀ x, x ∈ (Spread.of type (.explicit value)).singles ↔ x ∈ value.numbers
  /-- None of them becomes infinite exactly if all of them are in the range of single precision. -/
  range : (∀ x ∈ (Spread.of type (.explicit value)).singles, x.overflowsSingle = false) ↔
    ∀ x ∈ value.numbers, ∃ q, x.value? = some q ∧ |q| < 2 ^ 128 - 2 ^ 103

/-- A default that fits is written number by number. -/
theorem writesSingles {type : FieldType} (hbase : type.base = .float) {value : DefaultValue}
    (hfits : type.fits value = true) : type.WritesSingles value where
  expression := (Spread.text_of type (.explicit value)).symm
  literals := Spread.map_text_leaves hbase hfits
  numbers := fun x => Spread.mem_singles_iff hbase hfits
  range := by
    have hfinite := ((fits_float_iff hbase value).1 hfits).2
    apply forall_congr'
    intro x
    rw [Spread.mem_singles_iff hbase hfits]
    apply imp_congr_right
    intro hx
    rcases Binary64.isFinite_iff.1 (hfinite x hx) with ⟨q, hq⟩
    have hrange := (Binary64.overflowsSingle_iff hq).not
    rw [Bool.not_eq_true, not_le] at hrange
    simp only [hrange, hq, Option.some.injEq, exists_eq_left']

end FieldType

/-- The default of a field of real numbers is accepted if its shape fits and its numbers are finite,
whatever their magnitude. An accepted default is written number by number, and the numbers that are
written stay finite in single precision exactly if the author kept them below the limit of its
range. -/
theorem FieldDef.float_default_needs_range (field : FieldDef) (owner : String) (type : FieldType)
    (value : DefaultValue) (hbase : type.base = .float) (hdefault : field.initial = some value) :
    ((∃ initial, field.resolveInitial owner type = .ok initial) ↔
      type.takesShape value = true ∧ ∀ x ∈ value.numbers, x.isFinite = true) ∧
    ∀ initial, field.resolveInitial owner type = .ok initial →
      initial = some (.explicit value) ∧ type.WritesSingles value := by
  have hresolve : field.resolveInitial owner type =
      if type.fits value then .ok (some (.explicit value))
      else .error (.invalidDefault owner field.memberName value.text type.spelling) := by
    rw [resolveInitial, hdefault]
  rw [hresolve, ← FieldType.fits_float_iff hbase]
  cases hfits : type.fits value with
  | true =>
      refine ⟨by simp, ?_⟩
      intro initial haccepted
      cases haccepted
      exact ⟨rfl, FieldType.writesSingles hbase hfits⟩
  | false => simp

/-- A field of two pairs of real numbers, with a default from minus one half to `10 ^ 39`. -/
def FieldDef.glare : FieldDef where
  memberName := "glare"
  type := .float
  bounds := true
  count := 2
  initial := some (.vector [.finite true 4503599627370496 (-53), .finite false 6617444900424221 77])

/-- The upper ends are accepted and written, although single precision has no number for them. -/
theorem FieldDef.glare_needs_range :
    glare.resolveInitial "Lamp" (glare.wrap .float) = .ok (glare.initial.map .explicit) ∧
    (glare.initial.map fun value => InitialValue.expression (glare.wrap .float) (.explicit value)) =
      some "[hek::Bounds::new(-0.5f32, 1e39f32); 2]" ∧
    ∃ value, glare.initial = some value ∧
      ∃ x ∈ (Spread.of (glare.wrap .float) (.explicit value)).singles,
        x.overflowsSingle = true := by
  rcases float_default_needs_range glare "Lamp" (glare.wrap .float) _ rfl rfl with
    ⟨haccepted, hwritten⟩
  rcases haccepted.2 (by decide) with ⟨initial, hinitial⟩
  rcases hwritten initial hinitial with ⟨rfl, hsingles⟩
  refine ⟨hinitial, by decide +kernel, _, rfl, .finite false 6617444900424221 77, ?_,
    by decide +kernel⟩
  exact (hsingles.numbers _).2 (by simp [DefaultValue.numbers])

end TagSchema
