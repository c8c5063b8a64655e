import Mathlib.Logic.Relation
import TagSchema.Proofs.GeneratedNames

/-!
# Names that are single tokens

A name is checked by reading it as code: it is accepted when it reads as one identifier token.
Reading skips blanks, comments and a byte order mark, but the identifier is the text of the name as
it stands, with all of these around the token. So an identifier is a single token exactly when
nothing stands around the token in the name.

The grammar of blanks, comments and identifiers is stated by itself, as relations between a text and
the rest of it; the reader is shown to follow it.

Main results:

- `Text.Identifier.afterGap_eq_some_iff`, `Text.Identifier.skipGaps_eq_iff`: what is skipped.
- `Text.Identifier.takeToken_append`, `Text.Identifier.exists_token_of_takeToken`: what is taken.
- `Text.Identifier.isToken_iff`, `Text.Identifier.Reads.unique`: the texts that read as a token, and
  as which one.
- `Text.isIdentifier_iff_standsAlone`: the names whose identifier is a single token.
- `spelling_is_single_token_iff`: all names, and the identifiers in generated code.
-/

namespace TagSchema
namespace Text

/-! ## Characters -/

/-- A character is in at most one of two classes whose ranges do not meet. -/
theorem inClass_of_disjoint {ranges others : List CodeRange} {c : Char}
    (hdisjoint : ∀ range ∈ ranges, ∀ other ∈ others, range.2 < other.1 ∨ other.2 < range.1)
    (h : inClass ranges c = true) : inClass others c = false := by
  simp only [inClass, CodeRange.holds, List.any_eq_true, Bool.and_eq_true, decide_eq_true_eq] at h
  obtain ⟨range, hrange, hfirst, hlast⟩ := h
  rw [inClass, List.any_eq_false]
  intro other hother
  have hapart := hdisjoint range hrange other hother
  simp only [CodeRange.holds, Bool.and_eq_true, decide_eq_true_eq]
  omega

namespace Identifier

/-- No identifier goes on with a blank. -/
theorem continuesIdentifier_of_isGap {c : Char} (h : isGap c = true) :
    continuesIdentifier c = false := by
  have hdisjoint : ∀ range ∈ blankRanges, ∀ other ∈ startRanges ++ continueRanges,
      range.2 < other.1 ∨ other.2 < range.1 := by
    decide +kernel
  simp only [isGap, Bool.or_eq_true, decide_eq_true_eq] at h
  rcases h with (h | rfl) | rfl
  · have hother := inClass_of_disjoint hdisjoint h
    rwa [inClass, List.any_append] at hother
  · decide +kernel
  · decide +kernel

/-- What starts an identifier is no blank and opens no comment. -/
theorem of_startsIdentifier {c : Char} (h : startsIdentifier c = true) :
    isGap c = false ∧ c ≠ '/' := by
  have hcontinues : continuesIdentifier c = true := by
    simp only [startsIdentifier, Bool.or_eq_true, decide_eq_true_eq] at h
    rcases h with rfl | h
    · decide +kernel
    · simp [continuesIdentifier, h]
  constructor
  · by_contra hgap
    rw [continuesIdentifier_of_isGap (by simpa using hgap)] at hcontinues
    cases hcontinues
  · rintro rfl
    exact absurd hcontinues (by decide +kernel)

/-! ## Blanks and comments -/

/-- A line comment ends with its line, or with the text. -/
def EndsLine (text rest : List Char) : Prop :=
  ∃ body, text = body ++ rest ∧ '\n' ∉ body ∧ (rest = [] ∨ ∃ next, rest = '\n' :: next)

/-- A block comment of which some levels are open ends where all of them are closed. -/
inductive EndsBlock : Nat → List Char → List Char → Prop where
  | last {rest : List Char} : EndsBlock 1 ('*' :: '/' :: rest) rest
  | closes {depth : Nat} {text rest : List Char} (h : EndsBlock (depth + 1) text rest) :
      EndsBlock (depth + 2) ('*' :: '/' :: text) rest
  | opens {depth : Nat} {text rest : List Char} (h : EndsBlock (depth + 1) text rest) :
      EndsBlock depth ('/' :: '*' :: text) rest
  | inside {depth : Nat} {c : Char} {text rest : List Char}
      (hopens : ∀ next, c = '/' → text ≠ '*' :: next)
      (hcloses : ∀ next, c = '*' → text ≠ '/' :: next) (h : EndsBlock depth text rest) :
      EndsBlock depth (c :: text) rest

/-- A line comment that documents what follows, or what it stands in. -/
def isDocLine : List Char → Bool
  | '!' :: _ => true
  | '/' :: '/' :: _ => false
  | '/' :: _ => true
  | _ => false

/-- A block comment that documents what follows, or what it stands in. -/
def isDocBlock : List Char → Bool
  | '!' :: _ => true
  | '*' :: '/' :: _ => false
  | '*' :: '*' :: _ => false
  | '*' :: _ => true
  | _ => false

/-- A blank or a comment stands between a text and the rest of it. Comments that document something
are none. -/
inductive Gap : List Char → List Char → Prop where
  | blank {c : Char} {rest : List Char} (h : isGap c = true) : Gap (c :: rest) rest
  | line {text rest : List Char} (hdoc : isDocLine text = false) (htext : EndsLine text rest) :
      Gap ('/' :: '/' :: text) rest
  | block {text rest : List Char} (hdoc : isDocBlock text = false) (htext : EndsBlock 1 text rest) :
      Gap ('/' :: '*' :: text) rest

/-- Dropping all characters up to a newline ends a line. -/
theorem endsLine_dropWhile (text : List Char) : EndsLine text (text.dropWhile (· ≠ '\n')) := by
  induction text with
  | nil => exact ⟨[], rfl, List.not_mem_nil, Or.inl rfl⟩
  | cons c text ih =>
      by_cases hc : c = '\n'
      · subst hc
        exact ⟨[], rfl, List.not_mem_nil, Or.inr ⟨text, rfl⟩⟩
      · obtain ⟨body, htext, hbody, hrest⟩ := ih
        rw [List.dropWhile_cons_of_pos (by simpa using hc)]
        exact ⟨c :: body, by rw [List.cons_append, ← htext],
          List.not_mem_cons_of_ne_of_not_mem (Ne.symm hc) hbody, hrest⟩

/-- A line ends where the first newline stands, or with the text. -/
theorem dropWhile_eq_iff_endsLine {text rest : List Char} :
    text.dropWhile (· ≠ '\n') = rest ↔ EndsLine text rest := by
  constructor
  · rintro rfl
    exact endsLine_dropWhile text
  · rintro ⟨body, rfl, hbody, hrest⟩
    rw [List.dropWhile_append_of_pos fun c hc => by simpa using ne_of_mem_of_not_mem hc hbody]
    rcases hrest with rfl | ⟨next, rfl⟩ <;> simp

/-- What is found behind a block comment is what is left when all its blocks are closed. -/
theorem afterBlock_eq_some_iff {depth : Nat} (hdepth : 0 < depth) {text rest : List Char} :
    afterBlock depth text = some rest ↔ EndsBlock depth text rest := by
  constructor
  · intro h
    fun_induction afterBlock depth text with
    | case1 depth => cases h
    | case2 depth text ih => exact .opens (ih (by omega) h)
    | case3 depth text hlast =>
        cases h
        obtain rfl : depth = 1 := by omega
        exact .last
    | case4 depth text hmore ih =>
        obtain ⟨depth, rfl⟩ : ∃ less, depth = less + 2 := ⟨depth - 2, by omega⟩
        exact .closes (ih (by omega) h)
    | case5 depth c text hopens hcloses ih => exact .inside hopens hcloses (ih hdepth h)
  · intro h
    induction h with
    | last => rfl
    | closes h ih => simp [afterBlock, ih]
    | opens h ih => rw [afterBlock, ih (by omega)]
    | inside hopens hcloses h ih =>
        rw [afterBlock, ih hdepth]
        · exact hopens
        · exact hcloses

/-- A comment up to the end of a line is a gap, unless it is documentation. -/
theorem afterGap_line (text : List Char) :
    afterGap ('/' :: '/' :: text) =
      if isDocLine text then none else some (text.dropWhile (· ≠ '\n')) := by
  fun_cases isDocLine text with
  | case1 => rfl
  | case2 rest => simp [afterGap]
  | case3 rest hslash =>
      rw [afterGap]
      · rfl
      · exact hslash
  | case4 text hmark htwo hone =>
      rw [afterGap]
      · rfl
      all_goals assumption

/-- A block comment is a gap when it ends, unless it is documentation. -/
theorem afterGap_block (text : List Char) :
    afterGap ('/' :: '*' :: text) = if isDocBlock text then none else afterBlock 1 text := by
  fun_cases isDocBlock text with
  | case1 => rfl
  | case2 rest => rfl
  | case3 rest => rfl
  | case4 rest hslash hstar =>
      rw [afterGap]
      · rfl
      all_goals assumption
  | case5 text hmark hclose hstars hstar =>
      rw [afterGap]
      · rfl
      all_goals assumption

/-- A character that starts no comment is a gap when it is a blank. -/
theorem afterGap_other {c : Char} {text : List Char} (hline : ∀ next, c = '/' → text ≠ '/' :: next)
    (hblock : ∀ next, c = '/' → text ≠ '*' :: next) :
    afterGap (c :: text) = if isGap c then some text else none := by
  rw [afterGap]
  all_goals intro next hc
  all_goals first | exact hline _ hc | exact hblock _ hc

/-- One blank or comment is skipped. -/
theorem afterGap_eq_some_iff {text rest : List Char} :
    afterGap text = some rest ↔ Gap text rest := by
  constructor
  · intro h
    cases text with
    | nil => cases h
    | cons c text =>
        by_cases hline : ∃ next, c = '/' ∧ text = '/' :: next
        · obtain ⟨next, rfl, rfl⟩ := hline
          rw [afterGap_line, Option.ite_none_left_eq_some, Bool.not_eq_true] at h
          exact .line h.1 (dropWhile_eq_iff_endsLine.1 (Option.some.inj h.2))
        by_cases hblock : ∃ next, c = '/' ∧ text = '*' :: next
        · obtain ⟨next, rfl, rfl⟩ := hblock
          rw [afterGap_block, Option.ite_none_left_eq_some, Bool.not_eq_true] at h
          exact .block h.1 ((afterBlock_eq_some_iff Nat.one_pos).1 h.2)
        · rw [afterGap_other (fun next hc htext => hline ⟨next, hc, htext⟩)
            (fun next hc htext => hblock ⟨next, hc, htext⟩), Option.ite_none_right_eq_some] at h
          cases h.2
          exact .blank h.1
  · intro h
    cases h with
    | @blank c _ hblank =>
        have hslash : c ≠ '/' := by
          rintro rfl
          exact absurd hblank (by decide +kernel)
        rw [afterGap_other (fun _ hc => absurd hc hslash) (fun _ hc => absurd hc hslash),
          if_pos hblank]
    | line hdoc htext =>
        rw [afterGap_line, hdoc, dropWhile_eq_iff_endsLine.2 htext]
        rfl
    | block hdoc htext =>
        rw [afterGap_block, hdoc, (afterBlock_eq_some_iff Nat.one_pos).2 htext]
        rfl

/-- A text reads on as another one when blanks and comments stand between them. -/
abbrev Gaps : List Char → List Char → Prop :=
  Relation.ReflTransGen Gap

/-- A block comment takes at least one character. -/
theorem EndsBlock.length_lt {depth : Nat} {text rest : List Char} (h : EndsBlock depth text rest) :
    rest.length < text.length := by
  induction h with
  | last => simp only [List.length_cons]; omega
  | closes h ih => simp only [List.length_cons]; omega
  | opens h ih => simp only [List.length_cons]; omega
  | inside hopens hcloses h ih => simp only [List.length_cons]; omega

/-- A gap takes at least one character. -/
theorem Gap.length_lt {text rest : List Char} (h : Gap text rest) : rest.length < text.length := by
  cases h with
  | blank h => simp
  | line hdoc htext =>
      obtain ⟨body, rfl, -, -⟩ := htext
      simp only [List.length_cons, List.length_append]
      omega
  | block hdoc htext =>
      have := htext.length_lt
      simp only [List.length_cons]
      omega

/-- Where no gap starts, there are none to skip. -/
theorem eq_of_gaps {text rest : List Char} (hnone : afterGap text = none) (h : Gaps text rest) :
    text = rest := by
  rcases h.cases_head with heq | ⟨next, hgap, _⟩
  · exact heq
  · rw [afterGap_eq_some_iff.2 hgap] at hnone
    cases hnone

/-- All blanks and comments in front are skipped, and nothing else. -/
theorem skipGapsWithin_eq_iff {bound : Nat} {text rest : List Char} (hbound : text.length ≤ bound) :
    skipGapsWithin bound text = rest ↔ Gaps text rest ∧ afterGap rest = none := by
  induction bound generalizing text with
  | zero =>
      obtain rfl : text = [] := by simpa using hbound
      constructor
      · rintro rfl
        exact ⟨.refl, rfl⟩
      · rintro ⟨hgaps, _⟩
        exact eq_of_gaps rfl hgaps
  | succ bound ih =>
      cases hgap : afterGap text with
      | none =>
          simp only [skipGapsWithin, hgap]
          constructor
          · rintro rfl
            exact ⟨.refl, hgap⟩
          · rintro ⟨hgaps, _⟩
            exact eq_of_gaps hgap hgaps
      | some next =>
          have hnext : Gap text next := afterGap_eq_some_iff.1 hgap
          have hlength := hnext.length_lt
          simp only [skipGapsWithin, hgap]
          rw [ih (by omega)]
          constructor
          · rintro ⟨hgaps, hnone⟩
            exact ⟨.head hnext hgaps, hnone⟩
          · rintro ⟨hgaps, hnone⟩
            rcases hgaps.cases_head with rfl | ⟨other, hother, hgaps⟩
            · rw [hgap] at hnone
              cases hnone
            · rw [afterGap_eq_some_iff.2 hother] at hgap
              cases hgap
              exact ⟨hgaps, hnone⟩

/-- Gaps are skipped as far as there are any. -/
theorem skipGaps_eq_iff {text rest : List Char} :
    skipGaps text = rest ↔ Gaps text rest ∧ afterGap rest = none :=
  skipGapsWithin_eq_iff le_rfl

/-! ## Tokens -/

/-- A word: a character that starts an identifier, then characters that continue one. -/
def isWord : List Char → Bool
  | [] => false
  | c :: rest => startsIdentifier c && rest.all continuesIdentifier

/-- A text that is an identifier and nothing else: a word that is no keyword, or a mark and a word
that may stand behind it. -/
def isIdentifier : List Char → Bool
  | 'r' :: '#' :: word => isWord word && !neverRaw.contains (String.ofList word)
  | word => isWord word && !keywords.contains (String.ofList word)

/-- A text that reads as a token: blanks and comments may stand around it, and a byte order mark in
front of everything. -/
def Reads (text token : List Char) : Prop :=
  isIdentifier token = true ∧ ∃ body after, (text = body ∨ text = '\ufeff' :: body) ∧
    Gaps body (token ++ after) ∧ Gaps after []

/-- A text cannot go on with a word or a mark. -/
def Stops (text : List Char) : Prop :=
  ∀ c ∈ text.head?, continuesIdentifier c = false ∧ c ≠ '#'

/-- An identifier stops where only gaps follow. -/
theorem stops_of_gaps {after : List Char} (h : Gaps after []) : Stops after := by
  rintro c hc
  rcases h.cases_head with rfl | ⟨next, hgap, _⟩
  · cases hc
  · cases hgap with
    | blank hblank =>
        cases hc
        refine ⟨continuesIdentifier_of_isGap hblank, ?_⟩
        rintro rfl
        exact absurd hblank (by decide +kernel)
    | line | block =>
        cases hc
        decide +kernel

/-- A word that is taken is the front of the text. -/
theorem of_takeWord {text word rest : List Char} (h : takeWord text = some (word, rest)) :
    isWord word = true ∧ text = word ++ rest := by
  cases text with
  | nil => cases h
  | cons c text =>
      rw [takeWord, Option.ite_none_right_eq_some] at h
      obtain ⟨hstarts, hsplit⟩ := h
      cases hsplit
      refine ⟨?_, by rw [List.cons_append, List.takeWhile_append_dropWhile]⟩
      rw [isWord, hstarts, Bool.true_and]
      exact List.all_takeWhile

/-- A word is taken as a whole when the text cannot go on with it. -/
theorem takeWord_append {word rest : List Char} (hword : isWord word = true) (hrest : Stops rest) :
    takeWord (word ++ rest) = some (word, rest) := by
  cases word with
  | nil => cases hword
  | cons c word =>
      obtain ⟨hstarts, hcontinues⟩ := Bool.and_eq_true_iff.1 hword
      rw [List.all_eq_true] at hcontinues
      have hempty : rest.takeWhile continuesIdentifier = [] ∧
          rest.dropWhile continuesIdentifier = rest := by
        cases rest with
        | nil => exact ⟨rfl, rfl⟩
        | cons d rest =>
            have hd := (hrest d rfl).1
            simp [hd]
      rw [List.cons_append, takeWord, if_pos hstarts, List.takeWhile_append_of_pos hcontinues,
        List.dropWhile_append_of_pos hcontinues, hempty.1, hempty.2, List.append_nil]

/-- The two forms of an identifier. -/
theorem isIdentifier_iff {token : List Char} :
    isIdentifier token = true ↔
      (∃ word, token = 'r' :: '#' :: word ∧ isWord word = true ∧ String.ofList word ∉ neverRaw) ∨
        Unmarked token ∧ isWord token = true ∧ String.ofList token ∉ keywords := by
  fun_cases isIdentifier token with
  | case1 word =>
      have hmarked : ¬ Unmarked ('r' :: '#' :: word) := fun h => h word rfl
      simp [hmarked]
  | case2 =>
      rename_i hmark
      have hunmarked : Unmarked token := fun rest heq => hmark rest heq
      have hform : ¬ ∃ word, token = 'r' :: '#' :: word ∧ isWord word = true ∧
          String.ofList word ∉ neverRaw := by
        rintro ⟨word, heq, _⟩
        exact hmark word heq
      simp [hunmarked, hform]

/-- A word has a first character, and each further one continues it. -/
theorem exists_cons_of_isWord {word : List Char} (h : isWord word = true) :
    ∃ c rest, word = c :: rest ∧ startsIdentifier c = true ∧
      ∀ d ∈ rest, continuesIdentifier d = true := by
  cases word with
  | nil => cases h
  | cons c rest =>
      obtain ⟨hstarts, hcontinues⟩ := Bool.and_eq_true_iff.1 h
      exact ⟨c, rest, rfl, hstarts, List.all_eq_true.1 hcontinues⟩

/-- An identifier starts with a character that may start one, marked or not. -/
theorem exists_cons_of_isIdentifier {token : List Char} (h : isIdentifier token = true) :
    ∃ c rest, token = c :: rest ∧ startsIdentifier c = true := by
  rcases isIdentifier_iff.1 h with ⟨word, rfl, _⟩ | ⟨_, hword, _⟩
  · exact ⟨'r', '#' :: word, rfl, by decide +kernel⟩
  · obtain ⟨c, rest, rfl, hstarts, _⟩ := exists_cons_of_isWord hword
    exact ⟨c, rest, rfl, hstarts⟩

/-- An identifier starts with neither a blank nor a comment. -/
theorem afterGap_of_isIdentifier {token : List Char} (h : isIdentifier token = true)
    (after : List Char) : afterGap (token ++ after) = none := by
  obtain ⟨c, rest, rfl, hstarts⟩ := exists_cons_of_isIdentifier h
  obtain ⟨hgap, hslash⟩ := of_startsIdentifier hstarts
  rw [List.cons_append,
    afterGap_other (fun _ hc => absurd hc hslash) (fun _ hc => absurd hc hslash), hgap]
  rfl

/-- What is taken as a token is an identifier at the front of the text. -/
theorem exists_token_of_takeToken {text rest : List Char} (h : takeToken text = some rest) :
    ∃ token, isIdentifier token = true ∧ text = token ++ rest := by
  by_cases hmarked : ∃ marked, text = 'r' :: '#' :: marked
  · obtain ⟨marked, rfl⟩ := hmarked
    rw [takeToken] at h
    split at h
    · rename_i word next hword
      rw [Option.ite_none_left_eq_some] at h
      obtain ⟨hraw, hnext⟩ := h
      cases hnext
      obtain ⟨hisWord, rfl⟩ := of_takeWord hword
      exact ⟨'r' :: '#' :: word, isIdentifier_iff.2 (Or.inl ⟨word, rfl, hisWord, hraw⟩), rfl⟩
    · cases h
  · rw [takeToken] at h
    · split at h
      · rename_i word next hword
        rw [Option.ite_none_left_eq_some] at h
        obtain ⟨hkeyword, hnext⟩ := h
        cases hnext
        obtain ⟨hisWord, rfl⟩ := of_takeWord hword
        have hunmarked : Unmarked word := fun more heq => hmarked ⟨more ++ rest, by rw [heq]; rfl⟩
        exact ⟨word, isIdentifier_iff.2 (Or.inr ⟨hunmarked, hisWord, hkeyword⟩), rfl⟩
      · cases h
    · exact fun marked heq => hmarked ⟨marked, heq⟩

/-- A text that cannot go on with an identifier does not put a mark into it. -/
theorem Unmarked.append {token after : List Char} (h : Unmarked token) (hword : isWord token = true)
    (hafter : Stops after) : Unmarked (token ++ after) := by
  intro rest heq
  obtain ⟨c, word, rfl, _, _⟩ := exists_cons_of_isWord hword
  cases word with
  | nil =>
      rw [List.singleton_append, List.cons.injEq] at heq
      exact (hafter '#' (by rw [heq.2]; rfl)).2 rfl
  | cons d word =>
      simp only [List.cons_append, List.cons.injEq] at heq
      exact h word (by rw [heq.1, heq.2.1])

/-- An identifier is taken as a whole when it stops. -/
theorem takeToken_append {token after : List Char} (htoken : isIdentifier token = true)
    (hafter : Stops after) : takeToken (token ++ after) = some after := by
  rcases isIdentifier_iff.1 htoken with ⟨word, rfl, hword, hraw⟩ | ⟨hunmarked, hword, hkeyword⟩
  · simp [takeToken, takeWord_append hword hafter, hraw]
  · rw [takeToken, takeWord_append hword hafter]
    · simp [hkeyword]
    · exact hunmarked.append hword hafter

/-! ## Texts that read as a token -/

/-- At most one byte order mark is dropped. -/
theorem dropMark_cases (text : List Char) :
    text = dropMark text ∨ text = '\ufeff' :: dropMark text := by
  unfold dropMark
  split
  · exact Or.inr rfl
  · exact Or.inl rfl

/-- What the reader finds in a text that reads as a token. -/
theorem Reads.exists_after {text token : List Char} (h : Reads text token) :
    ∃ after, skipGaps (dropMark text) = token ++ after ∧ Stops after ∧ Gaps after [] := by
  obtain ⟨htoken, body, after, htext, hbody, hafter⟩ := h
  have hnone := afterGap_of_isIdentifier htoken after
  refine ⟨after, ?_, stops_of_gaps hafter, hafter⟩
  have hmark : dropMark text = body := by
    rcases htext with rfl | rfl
    · rcases dropMark_cases text with hsame | hmarked
      · exact hsame.symm
      · -- a mark that is no part of the text is neither skipped nor does it start an identifier
        have hfirst : afterGap text = none := by
          rw [hmarked, afterGap_other (by simp) (by simp), if_neg (by decide +kernel)]
        have htoken' := eq_of_gaps hfirst hbody
        obtain ⟨c, rest, rfl, hstarts⟩ := exists_cons_of_isIdentifier htoken
        rw [hmarked, List.cons_append, List.cons.injEq] at htoken'
        rw [← htoken'.1] at hstarts
        exact absurd hstarts (by decide +kernel)
    · rfl
  rw [hmark, skipGaps_eq_iff]
  exact ⟨hbody, hnone⟩

/-- A text reads as a token when some identifier stands in it between blanks and comments. -/
theorem isToken_iff {text : List Char} : isToken text = true ↔ ∃ token, Reads text token := by
  constructor
  · intro h
    unfold isToken at h
    split at h
    · rename_i rest hrest
      obtain ⟨token, htoken, hskip⟩ := exists_token_of_takeToken hrest
      rw [List.isEmpty_iff] at h
      exact ⟨token, htoken, dropMark text, rest, dropMark_cases text, (skipGaps_eq_iff.1 hskip).1,
        (skipGaps_eq_iff.1 h).1⟩
    · cases h
  · rintro ⟨token, hreads⟩
    obtain ⟨after, hskip, hstops, hafter⟩ := hreads.exists_after
    have hempty : skipGaps after = [] := skipGaps_eq_iff.2 ⟨hafter, rfl⟩
    simp only [isToken, hskip, takeToken_append hreads.1 hstops, hempty, List.isEmpty_nil]

/-- A text reads as at most one token. -/
theorem Reads.unique {text token other : List Char} (h : Reads text token)
    (hother : Reads text other) : token = other := by
  obtain ⟨after, hskip, hstops, _⟩ := h.exists_after
  obtain ⟨after', hskip', hstops', _⟩ := hother.exists_after
  have hsame : token ++ after = other ++ after' := hskip.symm.trans hskip'
  have htake := takeToken_append h.1 hstops
  rw [hsame, takeToken_append hother.1 hstops', Option.some.injEq] at htake
  rw [htake] at hsame
  exact List.append_cancel_right hsame

theorem reads_self {token : List Char} (h : isIdentifier token = true) : Reads token token :=
  ⟨h, token, [], Or.inl rfl, by rw [List.append_nil], .refl⟩

/-- A text reads as a token but has something else around it. -/
def Padded (text : List Char) : Prop :=
  ∃ token, Reads text token ∧ token ≠ text

/-- A text that reads as a token is the token itself unless something stands around it. -/
theorem isIdentifier_iff_of_reads {text token : List Char} (h : Reads text token) :
    isIdentifier text = true ↔ ¬ Padded text := by
  constructor
  · rintro htext ⟨other, hother, hne⟩
    exact hne (hother.unique (reads_self htext))
  · intro hpadded
    have heq : token = text := by
      by_contra hne
      exact hpadded ⟨token, h, hne⟩
    exact heq ▸ h.1

end Identifier

/-! ## Names -/

open Identifier

/-- The spelling of a name that has to be an identifier and nothing else: the name itself, or the
name behind a mark. -/
def spelledAlone (name : String) : Except SchemaError String :=
  if isIdentifier name.toList then .ok name
  else if isIdentifier ('r' :: '#' :: name.toList) then .ok ("r#" ++ name)
  else .error (.invalidIdentifier name)

/-- Nothing stands around a token in a name, nor in the name behind a mark. -/
def StandsAlone (name : String) : Prop :=
  ¬ Padded name.toList ∧ ¬ Padded ('r' :: '#' :: name.toList)

/-- A text that is read as no token has no token with something around it. -/
theorem not_padded_of_not_isToken {text : List Char} (h : isToken text = false) :
    ¬ Padded text := by
  rintro ⟨token, hreads, _⟩
  rw [isToken_iff.2 ⟨token, hreads⟩] at h
  cases h

/-- An identifier without a mark is one behind a mark too. -/
theorem not_padded_marked {text : List Char} (h : isIdentifier text = true) :
    ¬ Padded ('r' :: '#' :: text) := by
  rcases isIdentifier_iff.1 h with ⟨word, rfl, _⟩ | ⟨_, hword, hkeyword⟩
  · exact not_padded_of_not_isToken (isToken_twice_marked word)
  · have hraw : String.ofList text ∉ neverRaw := by
      have hsubset : ∀ word ∈ neverRaw, word ∈ keywords := by decide
      exact fun hmem => hkeyword (hsubset _ hmem)
    have hmarked : isIdentifier ('r' :: '#' :: text) = true :=
      isIdentifier_iff.2 (Or.inl ⟨text, rfl, hword, hraw⟩)
    exact (isIdentifier_iff_of_reads (reads_self hmarked)).1 hmarked

variable {name ident : String}

/-- The identifier of a name is one and nothing else exactly when nothing stands around the
token. -/
theorem isIdentifier_iff_standsAlone (h : identifier? name = some ident) :
    isIdentifier ident.toList = true ↔ StandsAlone name := by
  rcases identifier?_eq_some_iff.1 h with ⟨hplain, rfl⟩ | ⟨hword, hraw, rfl⟩
  · obtain ⟨token, hreads⟩ := isToken_iff.1 hplain
    rw [isIdentifier_iff_of_reads hreads, StandsAlone]
    constructor
    · intro hpadded
      exact ⟨hpadded, not_padded_marked ((isIdentifier_iff_of_reads hreads).2 hpadded)⟩
    · exact And.left
  · obtain ⟨token, hreads⟩ := isToken_iff.1 hraw
    have hident : ("r#" ++ name).toList = 'r' :: '#' :: name.toList := by simp
    rw [hident, isIdentifier_iff_of_reads hreads, StandsAlone,
      and_iff_right (not_padded_of_not_isToken hword)]

theorem not_isIdentifier_of_not_isToken {text : List Char} (h : isToken text = false) :
    isIdentifier text = false := by
  by_contra hident
  rw [isToken_iff.2 ⟨text, reads_self (by simpa using hident)⟩] at h
  cases h

/-- A name that has an identifier is spelled alone when the identifier is. -/
theorem spelledAlone_eq_ok_iff (h : identifier? name = some ident) :
    spelledAlone name = .ok ident ↔ isIdentifier ident.toList = true := by
  have hmarked : ("r#" ++ name).toList = 'r' :: '#' :: name.toList := by simp
  unfold spelledAlone
  rcases identifier?_eq_some_iff.1 h with ⟨hplain, rfl⟩ | ⟨hword, hraw, rfl⟩
  · cases hident : isIdentifier ident.toList with
    | true => simp
    | false =>
        have hne : "r#" ++ ident ≠ ident := by
          intro heq
          simpa using congrArg String.length heq
        split_ifs <;> simp_all
  · rw [not_isIdentifier_of_not_isToken hword, hmarked]
    cases isIdentifier ('r' :: '#' :: name.toList) <;> simp

/-- A name without an identifier is spelled in no way. -/
theorem spelledAlone_of_none (h : identifier? name = none) :
    spelledAlone name = .error (.invalidIdentifier name) ∧ StandsAlone name := by
  obtain ⟨hname, hmarked⟩ : isToken name.toList = false ∧
      isToken ('r' :: '#' :: name.toList) = false := by
    unfold identifier? at h
    split_ifs at h with hname hmarked
    exact ⟨by simpa using hname, by simpa using hmarked⟩
  refine ⟨?_, not_padded_of_not_isToken hname, not_padded_of_not_isToken hmarked⟩
  rw [spelledAlone, not_isIdentifier_of_not_isToken hname, not_isIdentifier_of_not_isToken hmarked]
  rfl

end Text

namespace Emission

/-- The names of a struct and of its members, with their identifiers. -/
def Subject.spellings (s : Subject) : List (String × String) :=
  (s.name, s.ident) :: s.fields.map fun field => (field.name, field.ident)

end Emission

open Text Identifier Emission

/-- Every name that is spelled in the code of a struct is spelled as an identifier. -/
theorem Generator.IsSubject.identifier_of_spelling {g : Generator} {id : g.StructId} {s : Subject}
    (h : g.IsSubject id s) {name ident : String} (hmem : (name, ident) ∈ s.spellings) :
    Text.identifier? name = some ident := by
  rcases List.mem_cons.1 hmem with hstruct | hmember
  · cases hstruct
    exact h.identifier?
  · obtain ⟨field, hfield, hspelling⟩ := List.mem_map.1 hmember
    cases hspelling
    obtain ⟨_, annotated, _, hannotated, rfl⟩ := h
    obtain ⟨flat, _, hresolved⟩ := (Stepwise.mem_of_mapM
      (Tables.resolveFields_of_annotate hannotated)).1 (List.mem_map_of_mem hfield)
    simp only [Tables.resolveField, Stepwise.bind_eq_ok_iff] at hresolved
    obtain ⟨_, _, ident, hident, _, _, hfields⟩ := hresolved
    have hfield := Except.ok.inj hfields
    have hname : flat.field.memberName = field.name := congrArg ResolvedField.name hfield
    have hspelled : ident = field.ident := congrArg ResolvedField.ident hfield
    rw [← hname, ← hspelled]
    exact requireIdentifier_eq_ok_iff.1 hident

/-- When the identifiers of structs and members are single tokens. A name is spelled, or refused, as
if it had to be an identifier and nothing else exactly when no blank, comment or byte order mark
stands around the token. Whatever is accepted is the name itself or the name behind a mark, and it
is a single token under the same condition, also in generated code. All other names are refused. -/
theorem spelling_is_single_token_iff (name : String) :
    (requireIdentifier name = spelledAlone name ↔ StandsAlone name) ∧
    (∀ ident, requireIdentifier name = .ok ident →
      (ident = name ∨ ident = "r#" ++ name) ∧
        (isIdentifier ident.toList = true ↔ StandsAlone name)) ∧
    ((∀ ident, requireIdentifier name ≠ .ok ident) →
      requireIdentifier name = .error (.invalidIdentifier name)) ∧
    ∀ (g : Generator) (id : g.StructId) (s : Subject), g.IsSubject id s →
      ∀ ident, (name, ident) ∈ s.spellings →
        (isIdentifier ident.toList = true ↔ StandsAlone name) := by
  refine ⟨?_, ?_, ?_, ?_⟩
  · cases hident : Text.identifier? name with
    | none =>
        obtain ⟨hrefused, halone⟩ := spelledAlone_of_none hident
        simp [requireIdentifier, hident, hrefused, halone]
    | some ident =>
        rw [requireIdentifier_eq_ok_iff.2 hident, eq_comm, spelledAlone_eq_ok_iff hident,
          isIdentifier_iff_standsAlone hident]
  · intro ident hident
    rw [requireIdentifier_eq_ok_iff] at hident
    refine ⟨?_, isIdentifier_iff_standsAlone hident⟩
    rcases identifier?_eq_some_iff.1 hident with ⟨_, hname⟩ | ⟨_, _, hmarked⟩
    · exact Or.inl hname
    · exact Or.inr hmarked
  · intro hrefused
    cases hident : Text.identifier? name with
    | none => simp [requireIdentifier, hident]
    | some ident => exact absurd (requireIdentifier_eq_ok_iff.2 hident) (hrefused ident)
  · intro g id s hsubject ident hmem
    exact isIdentifier_iff_standsAlone (hsubject.identifier_of_spelling hmem)

example : requireIdentifier "a // x" = .ok "a // x" ∧ isIdentifier "a // x".toList = false := by
  decide +kernel

end TagSchema
