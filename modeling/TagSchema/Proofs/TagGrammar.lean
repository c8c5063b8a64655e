import Mathlib.Data.List.Induction
import TagSchema.Definition.DeclaredType

/-!
# The grammar of tags

The tag of a field is a keyword, the spelling of an integer type, or a name. A width is read digit
by digit as a byte, and reading stops where the number does not fit any more. The numbers on the way
only grow, so a text of any length is read exactly when it is a run of digits for a byte, and it is
an integer width exactly when it is one of the four widths behind zeros.

Main results:

- `DeclaredType.byte?_eq_some_iff`: the runs of digits that are read as bytes.
- `DeclaredType.eq_zeros_append_toDigits`: a run of digits is its number behind zeros.
- `DeclaredType.integer?_eq_some_iff`: the tags that spell integer types.
- `DeclaredType.ofTag_follows_grammar`: the type that a tag declares.
-/

namespace TagSchema
namespace DeclaredType

/-! ## Bytes -/

/-- A digit is appended when the number stays a byte. -/
theorem appendDigit?_eq_some_iff {value next : Nat} {c : Char} :
    appendDigit? value c = some next ↔
      c.isDigit = true ∧ 10 * value + (c.toNat - '0'.toNat) = next ∧ next < byteBound := by
  unfold appendDigit?
  split
  · rename_i hdigit
    dsimp only
    split
    · rename_i hfits
      rw [Option.some.injEq]
      constructor
      · intro heq
        exact ⟨hdigit, heq, heq ▸ hfits⟩
      · intro h
        exact h.2.1
    · rename_i hoverflow
      simp only [reduceCtorEq, false_iff]
      rintro ⟨-, rfl, hfits⟩
      exact hoverflow hfits
  · rename_i hother
    simp [hother]

/-- Digits make a number no smaller. -/
theorem le_ofDigitChars (digits : List Char) (value : Nat) :
    value ≤ Nat.ofDigitChars 10 digits value := by
  induction digits generalizing value with
  | nil => simp
  | cons c digits ih =>
      have hrest := ih (10 * value + (c.toNat - '0'.toNat))
      rw [Nat.ofDigitChars_cons]
      omega

/-- Digits are read behind a number exactly when the number that results fits: if one on the way
does not fit, the result does not fit either. -/
theorem foldlM_appendDigit?_eq_some_iff {digits : List Char} {start value : Nat}
    (hstart : start < byteBound) :
    digits.foldlM appendDigit? start = some value ↔
      (∀ c ∈ digits, c.isDigit = true) ∧ Nat.ofDigitChars 10 digits start = value ∧
        value < byteBound := by
  induction digits generalizing start with
  | nil =>
      simp only [List.foldlM_nil, Option.pure_def, Option.some.injEq, List.not_mem_nil,
        false_implies, implies_true, Nat.ofDigitChars_nil, true_and]
      constructor
      · rintro rfl
        exact ⟨rfl, hstart⟩
      · intro h
        exact h.1
  | cons c digits ih =>
      rw [List.foldlM_cons, Option.bind_eq_bind, Option.bind_eq_some_iff, List.forall_mem_cons,
        Nat.ofDigitChars_cons]
      constructor
      · rintro ⟨next, hnext, hrest⟩
        rcases appendDigit?_eq_some_iff.1 hnext with ⟨hdigit, rfl, hfits⟩
        rcases (ih hfits).1 hrest with ⟨hdigits, hvalue, hbound⟩
        exact ⟨⟨hdigit, hdigits⟩, hvalue, hbound⟩
      · rintro ⟨⟨hdigit, hdigits⟩, hvalue, hbound⟩
        have hgrows := le_ofDigitChars digits (10 * start + (c.toNat - '0'.toNat))
        have hfits : 10 * start + (c.toNat - '0'.toNat) < byteBound := by omega
        exact ⟨_, appendDigit?_eq_some_iff.2 ⟨hdigit, rfl, hfits⟩,
          (ih hfits).2 ⟨hdigits, hvalue, hbound⟩⟩

/-- A text is read as a byte exactly when it is a run of digits and its number fits. -/
theorem byte?_eq_some_iff {digits : List Char} {value : Nat} :
    byte? digits = some value ↔
      digits ≠ [] ∧ (∀ c ∈ digits, c.isDigit = true) ∧ Nat.ofDigitChars 10 digits 0 = value ∧
        value < byteBound := by
  unfold byte?
  cases digits with
  | nil => simp
  | cons c digits =>
      rw [List.isEmpty_cons, if_neg Bool.false_ne_true,
        foldlM_appendDigit?_eq_some_iff (by decide), and_iff_right (List.cons_ne_nil c digits)]

/-! ## Zeros in front -/

/-- A digit is the character of its number. -/
theorem digitChar_of_isDigit {c : Char} (h : c.isDigit = true) :
    c.toNat - '0'.toNat < 10 ∧ Nat.digitChar (c.toNat - '0'.toNat) = c := by
  have hzero : '0'.toNat = 48 := rfl
  rw [Char.isDigit_iff_toNat, hzero] at h
  have hbound : c.toNat ≤ 57 := h.2
  have hsmall : c.toNat - 48 < 10 := by omega
  refine ⟨hsmall, ?_⟩
  rw [hzero, ← Char.toNat_inj, Nat.toNat_digitChar_of_lt_ten hsmall]
  omega

/-- A run of digits is the number that it stands for, written behind zeros. The induction is from
the back, where the digits of a number grow. -/
theorem eq_zeros_append_toDigits {digits : List Char} (h : ∀ c ∈ digits, c.isDigit = true)
    (hne : digits ≠ []) :
    ∃ zeros, digits =
      List.replicate zeros '0' ++ Nat.toDigits 10 (Nat.ofDigitChars 10 digits 0) := by
  induction digits using List.reverseRecOn with
  | nil => exact absurd rfl hne
  | append_singleton digits c ih =>
      rw [List.forall_mem_append, List.forall_mem_singleton] at h
      rcases digitChar_of_isDigit h.2 with ⟨hsmall, hchar⟩
      rw [Nat.ofDigitChars_append, Nat.ofDigitChars_cons, Nat.ofDigitChars_nil]
      generalize hdigit : c.toNat - '0'.toNat = digit at hsmall hchar
      by_cases hfirst : digits = []
      · refine ⟨0, ?_⟩
        simp [hfirst, Nat.toDigits_of_lt_base hsmall, hchar]
      · rcases ih h.1 hfirst with ⟨zeros, hzeros⟩
        generalize Nat.ofDigitChars 10 digits 0 = number at hzeros
        rcases Nat.eq_zero_or_pos number with rfl | hpositive
        · -- all digits so far are zeros
          refine ⟨zeros + 1, ?_⟩
          rw [hzeros, List.replicate_succ', Nat.toDigits_zero, Nat.mul_zero, Nat.zero_add,
            Nat.toDigits_of_lt_base hsmall, hchar]
        · refine ⟨zeros, ?_⟩
          rw [← Nat.toDigits_append_toDigits (by decide) hpositive hsmall, ← List.append_assoc,
            ← hzeros, Nat.toDigits_of_lt_base hsmall, hchar]

/-- Zeros in front do not change the number. -/
theorem ofDigitChars_zeros_append (zeros number : Nat) :
    Nat.ofDigitChars 10 (List.replicate zeros '0' ++ Nat.toDigits 10 number) 0 = number := by
  rw [Nat.ofDigitChars_append, Nat.ofDigitChars_replicate_zero, Nat.mul_zero,
    Nat.ofDigitChars_ten_toDigits]

/-- Zeros in front of a decimal number are digits like the others. -/
theorem isDigit_of_mem_zeros_append {zeros number : Nat} {c : Char}
    (h : c ∈ List.replicate zeros '0' ++ Nat.toDigits 10 number) : c.isDigit = true := by
  rcases List.mem_append.1 h with hzero | hdigit
  · rw [List.eq_of_mem_replicate hzero]
    rfl
  · exact Nat.isDigit_of_mem_toDigits (by decide) (by decide) hdigit

/-! ## Integer types -/

/-- What may stand in front of the digits of a width. -/
def IsSign (sign : List Char) : Prop :=
  sign = [] ∨ sign = ['+']

/-- A text spells an integer width: a plus sign that may be missing, any number of zeros, and the
digits of one of the four widths. -/
def SpellsWidth (bits : Nat) (text : List Char) : Prop :=
  bits ∈ [8, 16, 32, 64] ∧ ∃ sign, IsSign sign ∧ ∃ zeros,
    text = sign ++ (List.replicate zeros '0' ++ Nat.toDigits 10 bits)

/-- What a tag of an integer type starts with. -/
def stem (signed : Bool) : List Char :=
  if signed then ['i', 'n', 't'] else ['u', 'i', 'n', 't']

/-- A tag spells an integer type. -/
def SpellsInteger (bits : Nat) (signed : Bool) (tag : String) : Prop :=
  ∃ width, SpellsWidth bits width ∧ tag.toList = stem signed ++ width

theorem byte?_plus (digits : List Char) : byte? ('+' :: digits) = none := by
  rw [Option.eq_none_iff_forall_ne_some]
  intro value hvalue
  have hdigit := (byte?_eq_some_iff.1 hvalue).2.1 '+' List.mem_cons_self
  cases hdigit

/-- The number of a width is read behind its sign. -/
theorem widthValue?_eq_some_iff {text : List Char} {value : Nat} :
    widthValue? text = some value ↔
      ∃ sign, IsSign sign ∧ ∃ digits, text = sign ++ digits ∧ byte? digits = some value := by
  constructor
  · intro h
    unfold widthValue? at h
    split at h
    · rename_i digits
      exact ⟨['+'], Or.inr rfl, digits, rfl, h⟩
    · exact ⟨[], Or.inl rfl, text, rfl, h⟩
  · rintro ⟨sign, rfl | rfl, digits, rfl, hread⟩
    · unfold widthValue?
      split
      · rw [byte?_plus] at hread
        cases hread
      · exact hread
    · exact hread

/-- A text is read as a width exactly when it spells one. -/
theorem width?_eq_some_iff {text : List Char} {bits : Nat} :
    width? text = some bits ↔ SpellsWidth bits text := by
  rw [width?, Option.filter_eq_some_iff, widthValue?_eq_some_iff, SpellsWidth, and_comm,
    List.contains_iff_mem]
  refine and_congr_right fun hwidth => exists_congr fun sign => and_congr_right fun _ => ?_
  constructor
  · rintro ⟨digits, rfl, hread⟩
    rcases byte?_eq_some_iff.1 hread with ⟨hne, hdigits, hvalue, _⟩
    rcases eq_zeros_append_toDigits hdigits hne with ⟨zeros, hzeros⟩
    rw [hvalue] at hzeros
    exact ⟨zeros, by rw [hzeros]⟩
  · rintro ⟨zeros, rfl⟩
    have hfits : ∀ width ∈ widths, width < byteBound := by decide
    refine ⟨_, rfl, byte?_eq_some_iff.2 ⟨?_, ?_, ofDigitChars_zeros_append zeros bits,
      hfits bits hwidth⟩⟩
    · simp
    · exact fun c => isDigit_of_mem_zeros_append

/-- The stem of a tag says whether the integer type has a sign. -/
theorem integerParts?_eq_some_iff {text width : List Char} {signed : Bool} :
    integerParts? text = some (signed, width) ↔ text = stem signed ++ width := by
  unfold integerParts?
  split
  · cases signed <;> simp [stem, eq_comm]
  · cases signed <;> simp [stem, eq_comm]
  · rename_i hunsigned hsigned
    simp only [reduceCtorEq, false_iff]
    rintro rfl
    cases signed with
    | true => exact hsigned width rfl
    | false => exact hunsigned width rfl

/-- The tags that spell integer types. -/
theorem integer?_eq_some_iff {tag : String} {type : DeclaredType} :
    integer? tag = some type ↔
      ∃ bits signed, type = .int bits signed ∧ SpellsInteger bits signed tag := by
  unfold integer?
  simp only [Option.bind_eq_bind, Option.bind_eq_some_iff, Prod.exists, integerParts?_eq_some_iff,
    width?_eq_some_iff, Option.pure_def, Option.some.injEq, SpellsInteger]
  constructor
  · rintro ⟨signed, width, htag, bits, hwidth, rfl⟩
    exact ⟨bits, signed, rfl, width, hwidth, htag⟩
  · rintro ⟨bits, signed, rfl, width, hwidth, htag⟩
    exact ⟨signed, width, htag, bits, hwidth, rfl⟩

/-- A tag spells at most one integer type. -/
theorem SpellsInteger.unique {tag : String} {bits width : Nat} {signed other : Bool}
    (h : SpellsInteger bits signed tag) (hother : SpellsInteger width other tag) :
    bits = width ∧ signed = other := by
  have hfirst := integer?_eq_some_iff.2 ⟨bits, signed, rfl, h⟩
  have hsecond := integer?_eq_some_iff.2 ⟨width, other, rfl, hother⟩
  rw [hfirst] at hsecond
  cases hsecond
  exact ⟨rfl, rfl⟩

/-! ## Tags -/

/-- The tags that are keywords, with the types that they declare. -/
def keywords : List (String × DeclaredType) := [
  ("float", .float), ("TagDependency", .dependency), ("TagReflexive", .reflexive),
  ("TagDataOffset", .data), ("pad", .pad)]

/-- No keyword starts like an integer type. -/
theorem ne_stem_append_of_mem_keywords {tag : String} (h : tag ∈ keywords.map Prod.fst)
    (signed : Bool) (width : List Char) : tag.toList ≠ stem signed ++ width := by
  have hnone : ∀ keyword ∈ keywords.map Prod.fst, integerParts? keyword.toList = none := by decide
  intro htag
  have hparts := hnone tag h
  rw [integerParts?_eq_some_iff.2 htag] at hparts
  cases hparts

/-- A keyword declares its type. -/
theorem ofTag_of_mem_keywords :
    ∀ keyword ∈ keywords, ofTag keyword.1 = keyword.2 := by
  decide

/-- A tag that is no keyword declares the integer type that it spells, or else names a type. -/
theorem ofTag_of_not_keyword {tag : String} (h : tag ∉ keywords.map Prod.fst) :
    ofTag tag = (integer? tag).getD (.named tag) := by
  simp only [keywords, List.map_cons, List.mem_cons, not_or] at h
  unfold ofTag
  rw [if_neg h.1, if_neg h.2.1, if_neg h.2.2.1, if_neg h.2.2.2.1, if_neg h.2.2.2.2.1]

/-- The three kinds of tags. -/
inductive Kind (tag : String) : DeclaredType → Prop where
  | keyword {type : DeclaredType} (hmem : (tag, type) ∈ keywords) : Kind tag type
  | integer {bits : Nat} {signed : Bool} (h : SpellsInteger bits signed tag) :
      Kind tag (.int bits signed)
  | name (hkeyword : tag ∉ keywords.map Prod.fst)
      (hinteger : ∀ bits signed, ¬ SpellsInteger bits signed tag) : Kind tag (.named tag)

/-- The type that a tag declares is that of its kind. -/
theorem kind_ofTag (tag : String) : Kind tag (ofTag tag) := by
  by_cases hkeyword : tag ∈ keywords.map Prod.fst
  · rcases List.mem_map.1 hkeyword with ⟨⟨_, type⟩, hmem, rfl⟩
    have htype := ofTag_of_mem_keywords _ hmem
    rw [htype]
    exact .keyword hmem
  · rw [ofTag_of_not_keyword hkeyword]
    cases hinteger : integer? tag with
    | some type =>
        rcases integer?_eq_some_iff.1 hinteger with ⟨bits, signed, rfl, hspelled⟩
        exact .integer hspelled
    | none =>
        refine .name hkeyword fun bits signed hspelled => ?_
        rw [integer?_eq_some_iff.2 ⟨bits, signed, rfl, hspelled⟩] at hinteger
        cases hinteger

/-- The kinds of tags exclude each other. -/
theorem Kind.unique {tag : String} {type other : DeclaredType} (h : Kind tag type)
    (hother : Kind tag other) : type = other := by
  have hapart : ∀ {keyword : DeclaredType} {bits : Nat} {signed : Bool}, (tag, keyword) ∈ keywords →
      ¬ SpellsInteger bits signed tag := by
    rintro keyword bits signed hmem ⟨width, _, htag⟩
    exact ne_stem_append_of_mem_keywords (List.mem_map_of_mem hmem) signed width htag
  cases h with
  | keyword hmem =>
      cases hother with
      | keyword hsecond =>
          exact (ofTag_of_mem_keywords _ hmem).symm.trans (ofTag_of_mem_keywords _ hsecond)
      | integer hspelled => exact absurd hspelled (hapart hmem)
      | name hkeyword _ => exact absurd (List.mem_map_of_mem hmem) hkeyword
  | integer hspelled =>
      cases hother with
      | keyword hmem => exact absurd hspelled (hapart hmem)
      | integer hsecond =>
          rcases hspelled.unique hsecond with ⟨rfl, rfl⟩
          rfl
      | name _ hinteger => exact absurd hspelled (hinteger _ _)
  | name hkeyword hinteger =>
      cases hother with
      | keyword hmem => exact absurd (List.mem_map_of_mem hmem) hkeyword
      | integer hspelled => exact absurd hspelled (hinteger _ _)
      | name _ _ => rfl

/-- A tag declares a type exactly when the grammar has it of that kind. -/
theorem ofTag_eq_iff {tag : String} {type : DeclaredType} : ofTag tag = type ↔ Kind tag type := by
  constructor
  · rintro rfl
    exact kind_ofTag tag
  · exact (kind_ofTag tag).unique

/-- Where digits start behind a sign does not depend on how the text is cut. -/
theorem eq_of_sign_append_eq {sign other digits more : List Char} (hsign : IsSign sign)
    (hother : IsSign other) (hdigits : ∀ c ∈ digits, c.isDigit = true)
    (hmore : ∀ c ∈ more, c.isDigit = true) (h : sign ++ digits = other ++ more) :
    digits = more := by
  have hplus : '+'.isDigit = false := rfl
  rcases hsign with rfl | rfl
  · rcases hother with rfl | rfl
    · exact h
    · rw [List.nil_append] at h
      rw [hdigits '+' (by simp [h])] at hplus
      cases hplus
  · rcases hother with rfl | rfl
    · rw [List.nil_append] at h
      rw [hmore '+' (by simp [← h])] at hplus
      cases hplus
    · exact List.append_cancel_left h

/-- A tag with digits for another number than one of the four widths, however large, spells no
integer type. -/
theorem not_spellsInteger_of_value {tag : String} {signed : Bool} {sign digits : List Char}
    (htag : tag.toList = stem signed ++ (sign ++ digits)) (hsign : IsSign sign)
    (hdigits : ∀ c ∈ digits, c.isDigit = true)
    (hvalue : Nat.ofDigitChars 10 digits 0 ∉ [8, 16, 32, 64]) (bits : Nat) (other : Bool) :
    ¬ SpellsInteger bits other tag := by
  rintro ⟨width, ⟨hbits, second, hsecond, zeros, rfl⟩, hspelled⟩
  have hparts := integerParts?_eq_some_iff.2 htag
  rw [integerParts?_eq_some_iff.2 hspelled, Option.some.injEq, Prod.mk.injEq] at hparts
  have heq : List.replicate zeros '0' ++ Nat.toDigits 10 bits = digits :=
    eq_of_sign_append_eq hsecond hsign (fun c => isDigit_of_mem_zeros_append) hdigits hparts.2
  rw [← heq, ofDigitChars_zeros_append] at hvalue
  exact hvalue hbits

/-- The type that a tag declares, by the form of the tag. -/
structure Classified (tag : String) : Prop where
  /-- Integer types are spelled with their width, and with a mark in front if they have no sign. -/
  integer : ∀ bits signed, ofTag tag = .int bits signed ↔ SpellsInteger bits signed tag
  float : ofTag tag = .float ↔ tag = "float"
  dependency : ofTag tag = .dependency ↔ tag = "TagDependency"
  reflexive : ofTag tag = .reflexive ↔ tag = "TagReflexive"
  data : ofTag tag = .data ↔ tag = "TagDataOffset"
  pad : ofTag tag = .pad ↔ tag = "pad"
  /-- Every other tag is a name, and is kept as it is. -/
  named : ∀ name, ofTag tag = .named name ↔
    name = tag ∧ tag ∉ keywords.map Prod.fst ∧ ∀ bits signed, ¬ SpellsInteger bits signed tag
  /-- Any number of digits for another width, also one that does not fit a byte, makes a name. -/
  otherWidth : ∀ signed sign digits, tag.toList = stem signed ++ (sign ++ digits) → IsSign sign →
    (∀ c ∈ digits, c.isDigit = true) → Nat.ofDigitChars 10 digits 0 ∉ [8, 16, 32, 64] →
      ofTag tag = .named tag
  /-- Different tags name different types. -/
  distinct : ∀ other name, ofTag tag = .named name → ofTag other = .named name → tag = other

/-- A tag is a keyword exactly when it declares a type that is neither an integer nor named. -/
theorem ofTag_eq_keyword_iff {tag : String} {type : DeclaredType}
    (hinteger : ∀ bits signed, type ≠ .int bits signed) (hname : ∀ name, type ≠ .named name) :
    ofTag tag = type ↔ (tag, type) ∈ keywords := by
  rw [ofTag_eq_iff]
  constructor
  · rintro (hmem | _ | _)
    · exact hmem
    · exact absurd rfl (hinteger _ _)
    · exact absurd rfl (hname _)
  · exact .keyword

/-- A tag stands for an integer type when it spells one. -/
theorem ofTag_eq_int_iff {tag : String} {bits : Nat} {signed : Bool} :
    ofTag tag = .int bits signed ↔ SpellsInteger bits signed tag := by
  rw [ofTag_eq_iff]
  constructor
  · rintro (hmem | hspelled | _)
    · simp [keywords] at hmem
    · exact hspelled
  · exact .integer

/-- A tag is a name when it is neither a keyword nor spells an integer type. -/
theorem ofTag_eq_named_iff {tag name : String} :
    ofTag tag = .named name ↔ name = tag ∧ tag ∉ keywords.map Prod.fst ∧
      ∀ bits signed, ¬ SpellsInteger bits signed tag := by
  rw [ofTag_eq_iff]
  constructor
  · rintro (hmem | _ | ⟨hkeyword, hinteger⟩)
    · simp [keywords] at hmem
    · exact ⟨rfl, hkeyword, hinteger⟩
  · rintro ⟨rfl, hkeyword, hinteger⟩
    exact .name hkeyword hinteger

/-- Tags are read exactly by their grammar: a tag is a keyword, the spelling of an integer type, or
a name that is kept as it is. -/
theorem ofTag_follows_grammar (tag : String) : Classified tag where
  integer := fun bits signed => ofTag_eq_int_iff
  float := by simp [ofTag_eq_keyword_iff, keywords]
  dependency := by simp [ofTag_eq_keyword_iff, keywords]
  reflexive := by simp [ofTag_eq_keyword_iff, keywords]
  data := by simp [ofTag_eq_keyword_iff, keywords]
  pad := by simp [ofTag_eq_keyword_iff, keywords]
  named := fun name => ofTag_eq_named_iff
  otherWidth := by
    intro signed sign digits htag hsign hdigits hvalue
    refine ofTag_eq_named_iff.2 ⟨rfl, ?_, not_spellsInteger_of_value htag hsign hdigits hvalue⟩
    intro hkeyword
    exact ne_stem_append_of_mem_keywords hkeyword signed _ htag
  distinct := by
    intro other name htag hother
    rw [← (ofTag_eq_named_iff.1 htag).1, (ofTag_eq_named_iff.1 hother).1]

end DeclaredType
end TagSchema
