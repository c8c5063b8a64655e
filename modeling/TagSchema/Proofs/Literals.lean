import Mathlib.Data.List.Basic
import TagSchema.Emission.Validation

/-!
# Reading literals back

Generated code holds numbers, lists of numbers, masks and tests of raw values as text. The functions
here read such texts. What the generator writes reads as what it was written from, so a statement
about the code of a check can be a statement about the numbers in it.

Main results:

- `Literal.numeral?_toDigits`: a number reads back from its digits.
- `Literal.hexadecimal?_maskLiteral`: so does a mask from its literal.
- `Literal.numbers?_intercalate`: so does a list of numbers, whatever separates them.
- `Literal.rawTest?_condition`: so does the test of a guard from its condition.
-/

namespace TagSchema
namespace Literal

open Emission Validation

/-! ## Numerals -/

/-- The digit that a character stands for. -/
def digit? (base : Nat) (c : Char) : Option Nat :=
  (List.range base).find? fun digit => digit.digitChar = c

/-- The number that a numeral stands for. -/
def numeral? (base : Nat) (text : List Char) : Option Nat :=
  if text.isEmpty then none
  else text.foldlM (fun number c => (digit? base c).map (base * number + ·)) 0

/-- Different digits have different characters. -/
theorem digitChar_inj :
    ∀ one < 16, ∀ two < 16, Nat.digitChar one = Nat.digitChar two → one = two := by
  decide

/-- The character of a digit reads as the digit. -/
theorem digit?_digitChar {base digit : Nat} (hbase : base ≤ 16) (hdigit : digit < base) :
    digit? base digit.digitChar = some digit := by
  rw [digit?, List.find?_range_eq_some]
  refine ⟨by simp, List.mem_range.2 hdigit, fun smaller hsmaller => ?_⟩
  have hne : smaller.digitChar ≠ digit.digitChar := by
    intro heq
    have := digitChar_inj smaller (by omega) digit (by omega) heq
    omega
  simp [hne]

/-- A further digit multiplies by the base and adds the digit. -/
theorem numeral?_append_digit {base digit number : Nat} {text : List Char} (hbase : base ≤ 16)
    (hdigit : digit < base) (h : numeral? base text = some number) :
    numeral? base (text ++ [digit.digitChar]) = some (base * number + digit) := by
  unfold numeral? at h ⊢
  cases text with
  | nil => simp at h
  | cons c rest =>
      simp only [List.isEmpty_cons, Bool.false_eq_true, if_false] at h
      rw [if_neg (by simp), List.foldlM_append, h]
      simp [digit?_digitChar hbase hdigit]

/-- A number reads back from its digits. -/
theorem numeral?_toDigits {base : Nat} (hone : 1 < base) (hbase : base ≤ 16) (number : Nat) :
    numeral? base (Nat.toDigits base number) = some number := by
  induction number using Nat.strongRecOn with
  | ind number ih =>
      by_cases hsmall : number < base
      · rw [Nat.toDigits_of_lt_base hsmall]
        simp [numeral?, digit?_digitChar hbase hsmall]
      · have hle : base ≤ number := by omega
        have hless : number / base < number := Nat.div_lt_self (by omega) hone
        have hdigit : number % base < base := Nat.mod_lt _ (by omega)
        rw [Nat.toDigits_of_base_le hone hle, numeral?_append_digit hbase hdigit (ih _ hless),
          Nat.div_add_mod]

theorem toList_toString (number : Nat) : (toString number).toList = Nat.toDigits 10 number := by
  rw [Nat.toString_eq_repr, Nat.toList_repr]

/-- A number that is printed reads as itself. -/
theorem numeral?_toString (number : Nat) : numeral? 10 (toString number).toList = some number := by
  rw [toList_toString]
  exact numeral?_toDigits (by decide) (by decide) number

/-- The number that a hexadecimal literal stands for. -/
def hexadecimal? : List Char → Option Nat
  | '0' :: 'x' :: digits => numeral? 16 digits
  | _ => none

/-- A mask reads back from its literal. -/
theorem hexadecimal?_maskLiteral (mask : Mask) :
    hexadecimal? (maskLiteral mask).toList = some mask.toNat := by
  have htext : (maskLiteral mask).toList = '0' :: 'x' :: Nat.toDigits 16 mask.toNat := by
    unfold maskLiteral
    simp
  rw [htext, hexadecimal?]
  exact numeral?_toDigits (by decide) (by decide) mask.toNat

/-! ## Lists of numbers -/

/-- A text without the blanks around it. -/
def unpadded (text : List Char) : List Char :=
  ((text.dropWhile (· = ' ')).reverse.dropWhile (· = ' ')).reverse

/-- The numbers that a text lists, with a character between them. -/
def numbers? (separator : Char) (text : List Char) : Option (List Nat) :=
  if text.isEmpty then some []
  else (Text.pieces (· = separator) text).mapM fun piece => numeral? 10 (unpadded piece)

/-- Dropping blanks stops at a word. -/
theorem dropWhile_blanks {blanks word : List Char} (hblanks : ∀ c ∈ blanks, c = ' ')
    (hword : ∀ c ∈ word, c ≠ ' ') (hne : word ≠ []) (more : List Char) :
    (blanks ++ (word ++ more)).dropWhile (· = ' ') = word ++ more := by
  rw [List.dropWhile_append_of_pos (by simpa using hblanks)]
  cases word with
  | nil => exact absurd rfl hne
  | cons c rest => simp [hword c (by simp)]

/-- A word is what remains when the blanks around it are dropped. -/
theorem unpadded_of_blanks {before word after : List Char} (hbefore : ∀ c ∈ before, c = ' ')
    (hword : ∀ c ∈ word, c ≠ ' ') (hne : word ≠ []) (hafter : ∀ c ∈ after, c = ' ') :
    unpadded (before ++ (word ++ after)) = word := by
  have hback : (after.reverse ++ (word.reverse ++ [])).dropWhile (· = ' ') = word.reverse ++ [] :=
    dropWhile_blanks (by simpa using hafter) (by simpa using hword) (by simpa using hne) []
  rw [unpadded, dropWhile_blanks hbefore hword hne, List.reverse_append]
  simpa using congrArg List.reverse hback

/-- The digits of a number are no blanks and no separators. -/
theorem ne_of_mem_toDigits {number : Nat} {c separator : Char}
    (hc : c ∈ Nat.toDigits 10 number) (hseparator : separator.isDigit = false) : c ≠ separator := by
  have hdigit := Nat.isDigit_of_mem_toDigits (by decide) (by decide) hc
  rintro rfl
  rw [hseparator] at hdigit
  cases hdigit

section Separated

variable {separator : Char} {left right : List Char}

/-- A number with blanks around it is one piece. -/
theorem pieces_padded (hseparator : separator.isDigit = false) (hblank : separator ≠ ' ')
    (hleft : ∀ c ∈ left, c = ' ') (hright : ∀ c ∈ right, c = ' ') (number : Nat) :
    Text.pieces (· = separator) (left ++ (Nat.toDigits 10 number ++ right)) =
      [left ++ (Nat.toDigits 10 number ++ right)] := by
  apply Text.pieces_of_forall
  intro c hc
  rw [decide_eq_false_iff_not]
  rintro rfl
  rcases List.mem_append.1 hc with hc | hc
  · exact hblank (hleft _ hc)
  rcases List.mem_append.1 hc with hc | hc
  · exact ne_of_mem_toDigits hc hseparator rfl
  · exact hblank (hright _ hc)

/-- Digits with blanks around them read as their number. -/
theorem numeral?_unpadded (hleft : ∀ c ∈ left, c = ' ') (hright : ∀ c ∈ right, c = ' ')
    (number : Nat) :
    numeral? 10 (unpadded (left ++ (Nat.toDigits 10 number ++ right))) = some number := by
  rw [unpadded_of_blanks hleft (fun c hc => ne_of_mem_toDigits hc (by decide))
    Nat.toDigits_ne_nil hright]
  exact numeral?_toDigits (by decide) (by decide) number

variable {before after : List Char}

/-- The pieces of a list of numbers read as the numbers. The blanks behind a separator belong to the
piece that follows it, so the induction is over what stands in front of the first number too. -/
theorem mapM_pieces_intercalate (hseparator : separator.isDigit = false) (hblank : separator ≠ ' ')
    (hbefore : ∀ c ∈ before, c = ' ') (hafter : ∀ c ∈ after, c = ' ')
    (left : List Char) (hleft : ∀ c ∈ left, c = ' ') (first : Nat) (numbers : List Nat) :
    (Text.pieces (· = separator) (left ++ (before ++ separator :: after).intercalate
      ((first :: numbers).map (Nat.toDigits 10)))).mapM
        (fun piece => numeral? 10 (unpadded piece)) = some (first :: numbers) := by
  induction numbers generalizing left first with
  | nil =>
      have hnone : ∀ c ∈ ([] : List Char), c = ' ' := by simp
      have hpieces := pieces_padded hseparator hblank hleft hnone first
      have hread := numeral?_unpadded hleft hnone first
      rw [List.append_nil] at hpieces hread
      simp [hpieces, hread]
  | cons second numbers ih =>
      -- The text is cut at its first separator, between the two numbers in front.
      have htext : left ++ (before ++ separator :: after).intercalate
            ((first :: second :: numbers).map (Nat.toDigits 10)) =
          (left ++ (Nat.toDigits 10 first ++ before)) ++ separator ::
            (after ++ (before ++ separator :: after).intercalate
              ((second :: numbers).map (Nat.toDigits 10))) := by
        simp [List.intercalate_cons_cons]
      rw [htext, Text.pieces_append_cons (by simp), List.mapM_append,
        pieces_padded hseparator hblank hleft hbefore, ih after hafter second]
      simp [numeral?_unpadded hleft hbefore first]

/-- A list of numbers reads back from its text. -/
theorem numbers?_intercalate {between : String} (before after : List Char)
    (hbetween : between.toList = before ++ separator :: after)
    (hseparator : separator.isDigit = false) (hblank : separator ≠ ' ')
    (hbefore : ∀ c ∈ before, c = ' ') (hafter : ∀ c ∈ after, c = ' ') (numbers : List Nat) :
    numbers? separator (between.intercalate (numbers.map toString)).toList = some numbers := by
  have htext : (between.intercalate (numbers.map toString)).toList =
      (before ++ separator :: after).intercalate (numbers.map (Nat.toDigits 10)) := by
    rw [String.toList_intercalate, hbetween, List.map_map]
    exact congrArg _ (List.map_congr_left fun number _ => toList_toString number)
  rw [htext, numbers?]
  cases numbers with
  | nil => simp
  | cons first numbers =>
      have hread :=
        mapM_pieces_intercalate hseparator hblank hbefore hafter [] (by simp) first numbers
      rw [List.nil_append] at hread
      rw [if_neg ?_, hread]
      cases numbers with
      | nil => simp [Nat.toDigits_ne_nil]
      | cons second numbers => simp [List.intercalate_cons_cons]

end Separated

/-! ## Tests of raw values -/

/-- What generated code tests of a raw value: it is at least a bound, or it is listed. -/
structure RawTest where
  bound : Nat
  listed : List Nat
deriving DecidableEq, Repr

/-- A test holds of a raw value. -/
def RawTest.Flags (test : RawTest) (raw : Nat) : Prop :=
  test.bound ≤ raw ∨ raw ∈ test.listed

/-- What stands between two texts. -/
def between? (opening closing text : List Char) : Option (List Char) :=
  (text.dropPrefix? opening).bind (·.dropSuffix? closing)

/-- The raw values that the end of a condition lists. -/
def listed? (text : List Char) : Option (List Nat) :=
  if text.isEmpty then some []
  else (between? " || matches!(raw, ".toList ")".toList text).bind (numbers? '|')

/-- The test that a condition stands for. -/
def rawTest? (text : List Char) : Option RawTest := do
  let rest ← text.dropPrefix? "raw >= ".toList
  let bound ← numeral? 10 (rest.takeWhile Char.isDigit)
  let listed ← listed? (rest.dropWhile Char.isDigit)
  return ⟨bound, listed⟩

theorem dropPrefix?_append (opening rest : List Char) :
    (opening ++ rest).dropPrefix? opening = some rest := by
  rw [List.dropPrefix?_eq_some_iff]
  exact ⟨opening, rfl, by simp⟩

theorem between?_append (opening inner closing : List Char) :
    between? opening closing (opening ++ (inner ++ closing)) = some inner := by
  rw [between?, dropPrefix?_append, Option.bind_some, List.dropSuffix?_eq_some_iff]
  exact ⟨closing, rfl, by simp⟩

/-- Where the digits of a number end. -/
theorem span_digits (number : Nat) {more : List Char} (h : ∀ c ∈ more.head?, c.isDigit = false) :
    (Nat.toDigits 10 number ++ more).takeWhile Char.isDigit = Nat.toDigits 10 number ∧
      (Nat.toDigits 10 number ++ more).dropWhile Char.isDigit = more := by
  have hdigits : ∀ c ∈ Nat.toDigits 10 number, c.isDigit = true :=
    fun c hc => Nat.isDigit_of_mem_toDigits (by decide) (by decide) hc
  rw [List.takeWhile_append_of_pos hdigits, List.dropWhile_append_of_pos hdigits]
  cases more with
  | nil => simp
  | cons c more => simp [h c (by simp)]

/-- The end of the condition of a guard. -/
def listing (guard : EnumGuard) : String :=
  if guard.excluded.isEmpty then ""
  else " || matches!(raw, " ++ String.intercalate " | " (guard.excluded.map toString) ++ ")"

/-- The end of a condition reads as the options that the guard excludes. -/
theorem listed?_listing (guard : EnumGuard) :
    listed? (listing guard).toList = some guard.excluded := by
  cases hexcluded : guard.excluded with
  | nil => simp [listing, listed?, hexcluded]
  | cons first rest =>
      have htext : (listing guard).toList = " || matches!(raw, ".toList ++
          ((String.intercalate " | " (guard.excluded.map toString)).toList ++ ")".toList) := by
        rw [listing, if_neg (by simp [hexcluded]), String.toList_append, String.toList_append,
          List.append_assoc]
      have hread : numbers? '|' (String.intercalate " | " (guard.excluded.map toString)).toList =
          some guard.excluded :=
        numbers?_intercalate [' '] [' '] (by decide) (by decide) (by decide) (by simp) (by simp) _
      rw [listed?, if_neg (by simp [htext]), htext, between?_append, Option.bind_some, hread,
        hexcluded]

/-- The end of a condition does not start with a digit. -/
theorem head?_listing (guard : EnumGuard) :
    ∀ c ∈ (listing guard).toList.head?, c.isDigit = false := by
  cases hexcluded : guard.excluded with
  | nil => simp [listing, hexcluded]
  | cons first rest =>
      intro c hc
      rw [listing, if_neg (by simp [hexcluded]), String.append_assoc, String.toList_append] at hc
      have hhead : c = ' ' := by simpa using hc.symm
      rw [hhead]
      decide

/-- The condition of a guard tests for its number of options and its excluded ones. -/
theorem rawTest?_condition (guard : EnumGuard) :
    rawTest? guard.condition.toList = some ⟨guard.options, guard.excluded⟩ := by
  have htext : guard.condition.toList =
      "raw >= ".toList ++ (Nat.toDigits 10 guard.options ++ (listing guard).toList) := by
    rw [← toList_toString, ← List.append_assoc, ← String.toList_append, ← String.toList_append]
    rfl
  have hspan := span_digits guard.options (head?_listing guard)
  rw [htext, rawTest?, dropPrefix?_append, Option.bind_eq_bind, Option.bind_some, hspan.1, hspan.2,
    numeral?_toDigits (by decide) (by decide), listed?_listing]
  rfl

example : rawTest? "raw >= 3 || matches!(raw, 0 | 2)".toList = some ⟨3, [0, 2]⟩ := by decide

end Literal
end TagSchema
