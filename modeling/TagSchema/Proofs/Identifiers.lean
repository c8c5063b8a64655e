import TagSchema.Emission.Subject
import TagSchema.Proofs.AnnotatedFields

/-!
# Spelling of names

A name is spelled as it is when it reads as an identifier, and behind a mark when only that makes it
one. So two names may have the same spelling. The trait of hooks is named after the bare name,
without a mark.

Main results:

- `Text.identifier?_eq_some_iff`: how a name is spelled.
- `Text.identifier_eq_iff`: the names with the same spelling.
- `Emission.Subject.hooksTrait_eq`: the trait of hooks is named after the bare name.
- `Emission.identifier_eq_traitName_iff`: the names that are spelled like the trait of another one.
-/

namespace TagSchema

/-! ## Tokens -/

namespace Text
namespace Identifier

/-- Nothing is skipped before a character that opens neither a blank nor a comment. -/
theorem skipGaps_cons {c : Char} (hgap : isGap c = false) (hslash : c ≠ '/') (rest : List Char) :
    skipGaps (c :: rest) = c :: rest := by
  have hnone : afterGap (c :: rest) = none := by
    unfold afterGap
    split <;> simp_all
  simp only [skipGaps, List.length_cons, skipGapsWithin, hnone]

/-- A token has at most one mark. -/
theorem isToken_twice_marked (text : List Char) :
    isToken ('r' :: '#' :: 'r' :: '#' :: text) = false := by
  have hr : isGap 'r' = false := by decide +kernel
  have hmark : isGap '#' = false := by decide +kernel
  have hstarts : startsIdentifier 'r' = true := by decide +kernel
  have hends : continuesIdentifier '#' = false := by decide +kernel
  have hword : takeWord ('r' :: '#' :: text) = some (['r'], '#' :: text) := by
    simp [takeWord, hstarts, hends]
  have hraw : String.ofList ['r'] ∉ neverRaw := by decide
  have htoken : takeToken ('r' :: '#' :: 'r' :: '#' :: text) = some ('#' :: text) := by
    simp [takeToken, hword, hraw]
  have hfront : dropMark ('r' :: '#' :: 'r' :: '#' :: text) = 'r' :: '#' :: 'r' :: '#' :: text :=
    rfl
  -- the second mark is left behind the word
  simp only [isToken, hfront, skipGaps_cons hr (by decide), htoken, skipGaps_cons hmark (by decide),
    List.isEmpty_cons]

/-- A text without a mark in front. -/
def Unmarked (text : List Char) : Prop :=
  ∀ rest, text ≠ 'r' :: '#' :: rest

/-- What stands behind the mark of a token has no mark. -/
theorem unmarked_of_isToken {text : List Char} (h : isToken ('r' :: '#' :: text) = true) :
    Unmarked text := by
  rintro rest rfl
  simp [isToken_twice_marked] at h

theorem Unmarked.ne {name : String} (h : Unmarked name.toList) (other : String) :
    name ≠ "r#" ++ other := by
  rintro rfl
  exact h other.toList (by simp)

end Identifier

open Identifier

variable {name other ident ident' : String}

/-! ## Spelling -/

/-- A name is spelled as it is, or behind a mark. -/
theorem identifier?_eq_some_iff :
    identifier? name = some ident ↔
      isToken name.toList = true ∧ ident = name ∨
        isToken name.toList = false ∧ isToken ('r' :: '#' :: name.toList) = true ∧
          ident = "r#" ++ name := by
  unfold identifier?
  cases isToken name.toList with
  | true => simp [@eq_comm String ident]
  | false => cases isToken ('r' :: '#' :: name.toList) <;> simp [@eq_comm String ident]

/-- Names with the same spelling: they are equal, or one of them is the other one behind a mark,
which does not read as an identifier without it. -/
def SpelledAlike (name other : String) : Prop :=
  name = other ∨ isToken other.toList = false ∧ name = "r#" ++ other ∨
    isToken name.toList = false ∧ other = "r#" ++ name

instance (name other : String) : Decidable (SpelledAlike name other) :=
  inferInstanceAs (Decidable (_ ∨ _ ∧ _ ∨ _ ∧ _))

/-- Two names become the same identifier when they are spelled alike. -/
theorem identifier_eq_iff (hname : identifier? name = some ident)
    (hother : identifier? other = some ident') : ident = ident' ↔ SpelledAlike name other := by
  unfold SpelledAlike
  rcases identifier?_eq_some_iff.1 hname with ⟨hplain, hident⟩ | ⟨hword, hraw, hident⟩
  · rcases identifier?_eq_some_iff.1 hother with ⟨hplain', hident'⟩ | ⟨hword', hraw', hident'⟩
    · simp [hident, hident', hplain, hplain']
    · have hne : name ≠ other := fun heq => by simp [heq, hword'] at hplain
      simp [hident, hident', hplain, hword', hne]
  · rcases identifier?_eq_some_iff.1 hother with ⟨hplain', hident'⟩ | ⟨hword', hraw', hident'⟩
    · have hne : name ≠ other := fun heq => by simp [heq, hplain'] at hword
      simp [hident, hident', hplain', hword, hne, @eq_comm String other]
    · have hname := (unmarked_of_isToken hraw).ne other
      have hother := (unmarked_of_isToken hraw').ne name
      simp [hident, hident', hname, hother]

/-- A name is accepted with the identifier that it is spelled as. -/
theorem requireIdentifier_eq_ok_iff :
    requireIdentifier name = .ok ident ↔ identifier? name = some ident := by
  unfold requireIdentifier
  cases identifier? name <;> simp

end Text

/-! ## Bare names -/

namespace Emission

open Text Identifier

variable {name other ident ident' : String}

/-- A name without a mark in front. -/
def bareName (name : String) : String :=
  String.ofList (Subject.dropRawMark 1 name.toList)

theorem dropRawMark_of_unmarked {text : List Char} (h : Unmarked text) (bound : Nat) :
    Subject.dropRawMark bound text = text := by
  unfold Subject.dropRawMark
  split
  · rename_i rest
    exact absurd rfl (h rest)
  · rfl

/-- A token has no mark besides the first one, however many are dropped. -/
theorem dropRawMark_of_isToken {text : List Char} (h : isToken text = true) (bound : Nat) :
    Subject.dropRawMark (bound + 1) text = Subject.dropRawMark 1 text ∧
      Unmarked (Subject.dropRawMark 1 text) := by
  by_cases hmarked : ∃ rest, text = 'r' :: '#' :: rest
  · obtain ⟨rest, rfl⟩ := hmarked
    have hrest := unmarked_of_isToken h
    simp only [Subject.dropRawMark, dropRawMark_of_unmarked hrest]
    exact ⟨trivial, hrest⟩
  · have htext : Unmarked text := fun rest heq => hmarked ⟨rest, heq⟩
    rw [dropRawMark_of_unmarked htext, dropRawMark_of_unmarked htext]
    exact ⟨rfl, htext⟩

/-- The identifier of a name and the name itself are the same without their marks. -/
theorem dropRawMark_identifier (h : identifier? name = some ident) :
    Subject.dropRawMark ident.length ident.toList = (bareName name).toList ∧
      Unmarked (bareName name).toList := by
  rw [bareName, String.toList_ofList]
  rcases identifier?_eq_some_iff.1 h with ⟨hplain, rfl⟩ | ⟨_, hraw, rfl⟩
  · cases htext : ident.toList with
    | nil =>
        rw [htext] at hplain
        exact absurd hplain (by decide +kernel)
    | cons c rest =>
        rw [htext] at hplain
        rw [← String.length_toList, htext, List.length_cons]
        exact dropRawMark_of_isToken hplain rest.length
  · have hname := unmarked_of_isToken hraw
    have hident : ("r#" ++ name).toList = 'r' :: '#' :: name.toList := by simp
    rw [← String.length_toList, hident, List.length_cons, Subject.dropRawMark,
      dropRawMark_of_unmarked hname, dropRawMark_of_unmarked hname]
    exact ⟨rfl, hname⟩

/-- The trait of hooks is named after the bare name. -/
theorem Subject.hooksTrait_eq {s : Subject} (h : identifier? s.name = some s.ident) :
    s.hooksTrait = bareName s.name ++ "Hooks" := by
  rw [hooksTrait, (dropRawMark_identifier h).1, String.ofList_toList]

/-- Only a name that reads as an identifier is spelled like a trait: traits have no mark. -/
theorem identifier_eq_traitName_iff (hname : identifier? name = some ident)
    (hother : identifier? other = some ident') :
    ident = bareName other ++ "Hooks" ↔
      isToken name.toList = true ∧ name = bareName other ++ "Hooks" := by
  rcases identifier?_eq_some_iff.1 hname with ⟨hplain, hident⟩ | ⟨hword, _, hident⟩
  · simp [hident, hplain]
  · have hunmarked := (dropRawMark_identifier hother).2
    have hne : "r#" ++ name ≠ bareName other ++ "Hooks" := by
      intro heq
      have htext : 'r' :: '#' :: name.toList = (bareName other).toList ++ "Hooks".toList := by
        rw [← String.toList_append, ← heq]
        simp
      match hbare : (bareName other).toList with
      | [] => simp [hbare] at htext
      | [c] => simp [hbare] at htext
      | c :: d :: rest =>
          rw [hbare] at htext hunmarked
          simp only [List.cons_append, List.cons.injEq] at htext
          exact hunmarked rest (by rw [← htext.1, ← htext.2.1])
    simp [hident, hword, hne]

end Emission
end TagSchema
