import TagSchema.Proofs.ExactNumbers

/-!
# Defaults that fit

The expression of an initial value spreads the value over the leaves of a type: a vector over the
items of an array of numbers or over a pair of bounds, anything else as a whole over every leaf. An
explicit default fits a type exactly when each leaf receives what it can hold.

Main results:

- `Spread.text_of`: the expression of a value is the text of its spread.
- `Spread.type_of_mem_leaves`: every leaf has the type inside the wrappers.
- `FieldType.fits_iff_suits`: a default fits when every leaf suits what it receives.
- `FieldType.fits_mirrors_expression`: what follows for the expression of a default that fits.
-/

namespace TagSchema

/-! ## Spreads -/

/-- A type without wrappers, with the value that it receives. -/
structure Leaf where
  type : FieldType
  value : InitialValue

/-- The expression of a leaf. -/
def Leaf.text (leaf : Leaf) : String :=
  InitialValue.baseExpression leaf.type leaf.value

/-- A value that is spread over a type, with the wrappers of the type around it. -/
inductive Spread where
  | single (leaf : Leaf)
  | items (leaves : List Leaf)
  | repeated (element : Spread) (length : Nat)
  | pair (low high : Spread)
  | flagged (inner : Spread)

namespace Spread

/-- The spread of an initial value over a type. -/
def of : FieldType → InitialValue → Spread
  | .array inner length, value =>
    match value.spreadArray? inner length with
    | some scalars => .items (scalars.map fun x => ⟨inner, .explicit (.scalar x)⟩)
    | none => .repeated (of inner value) length
  | .bounds inner, value =>
    match value.spreadBounds? with
    | some (low, high) =>
      .pair (of inner (.explicit (.scalar low))) (of inner (.explicit (.scalar high)))
    | none => .pair (of inner value) (of inner value)
  | .flagged inner, value => .flagged (of inner value)
  | type, value => .single ⟨type, value⟩

/-- The expression of a spread. -/
def text : Spread → String
  | single leaf => leaf.text
  | items leaves => "[" ++ String.intercalate ", " (leaves.map Leaf.text) ++ "]"
  | repeated element length => "[" ++ element.text ++ "; " ++ toString length ++ "]"
  | pair low high => "hek::Bounds::new(" ++ low.text ++ ", " ++ high.text ++ ")"
  | flagged inner => "hek::FlaggedInt::from(" ++ inner.text ++ ")"

/-- The leaves of a spread, in the order in which its expression spells them. -/
def leaves : Spread → List Leaf
  | single leaf => [leaf]
  | items leaves => leaves
  | repeated element _ => element.leaves
  | pair low high => low.leaves ++ high.leaves
  | flagged inner => inner.leaves

/-- The expression of an initial value is the text of its spread. -/
theorem text_of (type : FieldType) (value : InitialValue) :
    (of type value).text = value.expression type := by
  induction type generalizing value with
  | array inner length ih =>
      unfold of InitialValue.expression
      cases value.spreadArray? inner length with
      | some scalars =>
          exact congrArg (fun texts => "[" ++ String.intercalate ", " texts ++ "]") List.map_map
      | none =>
          exact congrArg (fun text => "[" ++ text ++ "; " ++ toString length ++ "]") (ih value)
  | bounds inner ih =>
      unfold of InitialValue.expression
      rcases value.spreadBounds? with _ | ⟨low, high⟩
      · exact congrArg (fun text => "hek::Bounds::new(" ++ text ++ ", " ++ text ++ ")") (ih value)
      · exact congrArg₂ (fun low high => "hek::Bounds::new(" ++ low ++ ", " ++ high ++ ")")
          (ih (.explicit (.scalar low))) (ih (.explicit (.scalar high)))
  | flagged inner ih =>
      exact congrArg (fun text => "hek::FlaggedInt::from(" ++ text ++ ")") (ih value)
  | _ => rfl

/-- A plain number is a single leaf. -/
theorem of_of_isNumber {type : FieldType} (h : type.isNumber = true) (value : InitialValue) :
    of type value = .single ⟨type, value⟩ := by
  cases type with
  | int bits signed => rfl
  | float => rfl
  | _ => cases h

end Spread

namespace InitialValue

/-- A value is spread over an array exactly if it is a vector of its length and the elements are
numbers. -/
theorem spreadArray?_eq_some_iff {value : InitialValue} {inner : FieldType} {length : Nat}
    {scalars : List Binary64} :
    value.spreadArray? inner length = some scalars ↔
      value = .explicit (.vector scalars) ∧ inner.isNumber = true ∧ scalars.length = length := by
  unfold spreadArray?
  split
  · rename_i values
    by_cases hspread : inner.isNumber = true ∧ values.length = length
    · simp only [hspread.1, hspread.2, decide_true, Bool.and_self, if_true, Option.some.injEq,
        explicit.injEq, DefaultValue.vector.injEq]
      constructor
      · rintro rfl
        exact ⟨rfl, trivial, hspread.2⟩
      · exact fun h => h.1
    · have hnot : (inner.isNumber && decide (values.length = length)) = false := by
        simpa using hspread
      simp only [hnot, Bool.false_eq_true, if_false, reduceCtorEq, false_iff]
      rintro ⟨hvalue, hrest⟩
      cases hvalue
      exact hspread hrest
  · rename_i hvector
    simp only [reduceCtorEq, false_iff]
    rintro ⟨rfl, _⟩
    exact hvector scalars rfl

/-- A value is spread over a pair of bounds exactly if it is a vector of two. -/
theorem spreadBounds?_eq_some_iff {value : InitialValue} {low high : Binary64} :
    value.spreadBounds? = some (low, high) ↔ value = .explicit (.vector [low, high]) := by
  unfold spreadBounds?
  split
  · simp
  · rename_i hvector
    simp only [reduceCtorEq, false_iff]
    rintro rfl
    exact hvector low high rfl

end InitialValue

/-- Every leaf has the type inside the wrappers. -/
theorem Spread.type_of_mem_leaves {type : FieldType} {value : InitialValue} {leaf : Leaf}
    (h : leaf ∈ (of type value).leaves) : leaf.type = type.base := by
  induction type generalizing value with
  | array inner length ih =>
      simp only [of] at h
      cases hspread : value.spreadArray? inner length with
      | some scalars =>
          obtain ⟨_, hnumber, _⟩ := InitialValue.spreadArray?_eq_some_iff.1 hspread
          simp only [hspread, leaves, List.mem_map] at h
          obtain ⟨x, _, rfl⟩ := h
          have hleaf : (⟨inner, .explicit (.scalar x)⟩ : Leaf) ∈
              (of inner (.explicit (.scalar x))).leaves := by
            rw [of_of_isNumber hnumber]
            exact List.mem_singleton_self _
          exact ih hleaf
      | none =>
          simp only [hspread, leaves] at h
          exact ih h
  | bounds inner ih =>
      simp only [of] at h
      cases hspread : value.spreadBounds? with
      | some ends =>
          simp only [hspread, leaves, List.mem_append] at h
          exact h.elim ih ih
      | none =>
          simp only [hspread, leaves, List.mem_append, or_self] at h
          exact ih h
  | flagged inner ih => exact ih h
  | _ => rw [List.mem_singleton.1 h]; rfl

/-! ## What leaves can hold -/

/-- What a leaf receives can be held by its type: an integer leaf receives a scalar that is a whole
number within its range, a leaf of real numbers a finite scalar. Other leaves ask for nothing. -/
def Leaf.Suits (leaf : Leaf) : Prop :=
  match leaf.type with
  | .int bits signed => ∃ x, leaf.value = .explicit (.scalar x) ∧
      ∃ z : ℤ, x.value? = some (z : ℚ) ∧ FieldType.InRange bits signed z
  | .float => ∃ x, leaf.value = .explicit (.scalar x) ∧ ∃ q, x.value? = some q
  | _ => True

namespace FieldType

/-- The default of an array is tested item by item where its expression is spread. -/
theorem fits_array_of_some {value : DefaultValue} {inner : FieldType} {length : Nat}
    {scalars : List Binary64}
    (h : (InitialValue.explicit value).spreadArray? inner length = some scalars) :
    (array inner length).fits value = scalars.all fun x => inner.fits (.scalar x) := by
  obtain ⟨hvalue, hnumber, hlength⟩ := InitialValue.spreadArray?_eq_some_iff.1 h
  cases hvalue
  simp [fits, hnumber, hlength]

/-- The default of an array is tested as a whole where its expression is repeated. -/
theorem fits_array_of_none {value : DefaultValue} {inner : FieldType} {length : Nat}
    (h : (InitialValue.explicit value).spreadArray? inner length = none) :
    (array inner length).fits value = inner.fits value := by
  cases value with
  | scalar x => rfl
  | vector values =>
      by_cases hspread : inner.isNumber = true ∧ values.length = length
      · have hsome := InitialValue.spreadArray?_eq_some_iff.2 ⟨rfl, hspread⟩
        rw [h] at hsome
        cases hsome
      · have hnot : (inner.isNumber && decide (values.length = length)) = false := by
          simpa using hspread
        simp [fits, hnot]

/-- The default of a pair of bounds is tested end by end where its expression is spread. -/
theorem fits_bounds_of_some {value : DefaultValue} {inner : FieldType} {low high : Binary64}
    (h : (InitialValue.explicit value).spreadBounds? = some (low, high)) :
    (bounds inner).fits value = (inner.fits (.scalar low) && inner.fits (.scalar high)) := by
  have hvalue := InitialValue.spreadBounds?_eq_some_iff.1 h
  cases hvalue
  rfl

/-- The default of a pair of bounds is tested as a whole where its expression is repeated. -/
theorem fits_bounds_of_none {value : DefaultValue} {inner : FieldType}
    (h : (InitialValue.explicit value).spreadBounds? = none) :
    (bounds inner).fits value = inner.fits value := by
  cases value with
  | scalar x => rfl
  | vector values =>
      rcases values with _ | ⟨low, _ | ⟨high, _ | ⟨third, rest⟩⟩⟩
      · rfl
      · rfl
      · cases h
      · rfl

/-- A default fits a type when every leaf suits what it receives. -/
theorem fits_iff_suits {type : FieldType}
    (hwidths : ∀ bits signed, type.base = .int bits signed → bits ≤ 64) (value : DefaultValue) :
    type.fits value = true ↔ ∀ leaf ∈ (Spread.of type (.explicit value)).leaves, leaf.Suits := by
  induction type generalizing value with
  | int bits signed =>
      have hbits := hwidths bits signed rfl
      cases value <;> simp [fits, Spread.of, Spread.leaves, Leaf.Suits, intHolds_iff hbits]
  | float =>
      cases value <;> simp [fits, Spread.of, Spread.leaves, Leaf.Suits, Binary64.isFinite_iff]
  | array inner length ih =>
      have hinner := ih hwidths
      cases hspread : (InitialValue.explicit value).spreadArray? inner length with
      | none => simp only [fits_array_of_none hspread, Spread.of, hspread, Spread.leaves, hinner]
      | some scalars =>
          obtain ⟨_, hnumber, _⟩ := InitialValue.spreadArray?_eq_some_iff.1 hspread
          simp only [fits_array_of_some hspread, Spread.of, hspread, Spread.leaves,
            List.all_eq_true, hinner, Spread.of_of_isNumber hnumber, List.mem_singleton, forall_eq,
            List.forall_mem_map]
  | bounds inner ih =>
      have hinner := ih hwidths
      cases hspread : (InitialValue.explicit value).spreadBounds? with
      | none =>
          simp only [fits_bounds_of_none hspread, Spread.of, hspread, Spread.leaves, hinner,
            List.mem_append, or_self]
      | some ends =>
          obtain ⟨low, high⟩ := ends
          simp only [fits_bounds_of_some hspread, Spread.of, hspread, Spread.leaves,
            Bool.and_eq_true, hinner, List.forall_mem_append]
  | flagged inner ih => exact ih hwidths value
  | _ => simp [fits, Spread.of, Spread.leaves, Leaf.Suits]

end FieldType

/-! ## Texts of leaves -/

/-- The expression that stands for a value that a leaf cannot take. -/
def fallback : String := "Default::default()"

/-- A text with another first character is not the fallback. -/
theorem ne_fallback_of_head? {text : String} {c : Char} (h : text.toList.head? = some c)
    (hc : c ≠ 'D') : text ≠ fallback := by
  rintro rfl
  exact hc (Option.some.inj h).symm

theorem append_ne_fallback {text ending : String} {c : Char} (h : ending.toList.getLast? = some c)
    (hc : c ≠ ')') : text ++ ending ≠ fallback := by
  intro heq
  have hlast : (text ++ ending).toList.getLast? = some ')' := by
    rw [heq]
    rfl
  rw [String.toList_append, List.getLast?_append, h, Option.some_or] at hlast
  exact hc (Option.some.inj hlast)

/-- A text that ends with the digits of a number is no fallback. -/
theorem append_toString_ne_fallback {text : String} (n : Nat) : text ++ toString n ≠ fallback := by
  have hdigits : (toString n).toList = Nat.toDigits 10 n := by
    rw [Nat.toString_eq_repr, Nat.toList_repr]
  have hlast := List.getLast?_eq_some_getLast (Nat.toDigits_ne_nil (n := n) (b := 10))
  have hdigit := Nat.isDigit_of_mem_toDigits (by decide) (by decide)
    (List.getLast_mem (Nat.toDigits_ne_nil (n := n) (b := 10)))
  refine append_ne_fallback (by rw [hdigits]; exact hlast) fun heq => ?_
  rw [heq] at hdigit
  cases hdigit

/-- The type is a number or a named type, without a wrapper. -/
def FieldType.takesValues : FieldType → Bool
  | int _ _ => true
  | float => true
  | named _ _ _ => true
  | _ => false

namespace Leaf

variable {leaf : Leaf}

/-- A leaf that suits what it receives does not fall back. -/
theorem Suits.text_ne_fallback (h : leaf.Suits) (htype : leaf.type.takesValues = true) :
    leaf.text ≠ fallback := by
  obtain ⟨type, value⟩ := leaf
  cases type with
  | int bits signed =>
      obtain ⟨x, rfl, _⟩ := h
      change toString x.toInt128 ++ ((if signed then "i" else "u") ++ toString bits) ≠ fallback
      rw [← String.append_assoc]
      exact append_toString_ne_fallback bits
  | float =>
      obtain ⟨x, rfl, _⟩ := h
      exact append_ne_fallback (c := '2') rfl (by decide)
  | named ident kind native =>
      have hhead : ∀ argument : String, ((FieldType.named ident kind native).spelling ++
          "::from(" ++ argument ++ ")").toList.head? = some 'h' := by
        intro argument
        have hspelling : (FieldType.named ident kind native).spelling =
            "hek::" ++ ident ++ (if native then "<hek::NativeEndian>" else "") := rfl
        simp [hspelling]
      rcases value with _ | ⟨x | xs⟩
      · exact (by decide : "NULL_INDEX" ≠ fallback)
      · rw [text, InitialValue.baseExpression]
        exact ne_fallback_of_head? (hhead _) (by decide)
      · rw [text, InitialValue.baseExpression]
        exact ne_fallback_of_head? (hhead _) (by decide)
  | _ => cases htype

/-- An integer leaf that suits is written as the number that it receives. -/
theorem Suits.text_int (h : leaf.Suits) {bits : Nat} {signed : Bool}
    (htype : leaf.type = .int bits signed) (hbits : bits ≤ 64) :
    ∃ x, leaf.value = .explicit (.scalar x) ∧ ∃ z : ℤ, x.value? = some (z : ℚ) ∧
      FieldType.InRange bits signed z ∧
      leaf.text = toString z ++ (FieldType.int bits signed).spelling := by
  obtain ⟨type, value⟩ := leaf
  cases htype
  obtain ⟨x, rfl, z, hz, hrange⟩ := h
  refine ⟨x, rfl, z, hz, hrange, ?_⟩
  rw [text, InitialValue.baseExpression, FieldType.toInt128_of_inRange hbits hz hrange]

end Leaf

namespace FieldType

/-- The test of a default mirrors its expression. The expression is the text of a spread of the
value over the type, and the default fits exactly when each leaf of the spread suits what it
receives. A default that fits falls back in no leaf of a number or a named type, and every integer
that is written stands for exactly what the leaf receives and is in the range of its type. -/
theorem fits_mirrors_expression (type : FieldType) (value : DefaultValue)
    (hwidths : ∀ bits signed, type.base = .int bits signed → bits ≤ 64) :
    (Spread.of type (.explicit value)).text = InitialValue.expression type (.explicit value) ∧
    (type.fits value = true ↔ ∀ leaf ∈ (Spread.of type (.explicit value)).leaves, leaf.Suits) ∧
    (type.fits value = true → ∀ leaf ∈ (Spread.of type (.explicit value)).leaves,
      (type.base.takesValues = true → leaf.text ≠ fallback) ∧
      ∀ bits signed, leaf.type = .int bits signed →
        ∃ x, leaf.value = .explicit (.scalar x) ∧ ∃ z : ℤ, x.value? = some (z : ℚ) ∧
          InRange bits signed z ∧ leaf.text = toString z ++ (int bits signed).spelling) := by
  have hfits := fits_iff_suits hwidths value
  refine ⟨Spread.text_of type (.explicit value), hfits, fun haccepted leaf hleaf => ⟨?_, ?_⟩⟩
  · intro hbase
    rw [← Spread.type_of_mem_leaves hleaf] at hbase
    exact (hfits.1 haccepted leaf hleaf).text_ne_fallback hbase
  · intro bits signed htype
    have hwidth := hwidths bits signed (Spread.type_of_mem_leaves hleaf ▸ htype)
    exact (hfits.1 haccepted leaf hleaf).text_int htype hwidth

/-- Three pairs of bounds, each end a byte with a sign that may be unset. -/
def margins : FieldType :=
  .array (.bounds (.flagged (.int 8 true))) 3

/-- The pairs take the least and the greatest byte, and nothing beyond these. -/
theorem margins_mirror_expression :
    margins.fits (.vector [.finite true 1 7, .finite false 127 0]) = true ∧
    (∀ leaf ∈
      (Spread.of margins (.explicit (.vector [.finite true 1 7, .finite false 127 0]))).leaves,
      leaf.Suits ∧ leaf.text ≠ fallback) ∧
    InitialValue.expression margins (.explicit (.vector [.finite true 1 7, .finite false 127 0])) =
      "[hek::Bounds::new(hek::FlaggedInt::from(-128i8), hek::FlaggedInt::from(127i8)); 3]" ∧
    ¬ ∀ leaf ∈
      (Spread.of margins (.explicit (.vector [.finite true 1 7, .finite false 1 7]))).leaves,
      leaf.Suits := by
  have hwidths : ∀ bits signed, margins.base = .int bits signed → bits ≤ 64 := by
    intro bits signed hbase
    cases hbase
    decide
  have haccepted : margins.fits (.vector [.finite true 1 7, .finite false 127 0]) = true := by
    decide
  obtain ⟨_, hsuits, hwritten⟩ :=
    fits_mirrors_expression margins (.vector [.finite true 1 7, .finite false 127 0]) hwidths
  obtain ⟨_, hbeyond, _⟩ :=
    fits_mirrors_expression margins (.vector [.finite true 1 7, .finite false 1 7]) hwidths
  refine ⟨haccepted, fun leaf hleaf => ?_, by decide +kernel, fun hall => ?_⟩
  · exact ⟨hsuits.1 haccepted leaf hleaf, (hwritten haccepted leaf hleaf).1 rfl⟩
  · exact absurd (hbeyond.2 hall) (by decide)

end FieldType
end TagSchema
