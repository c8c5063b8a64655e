/-!
# Pieces

A text cut at the characters that separate its pieces. Every text has at least one piece.
-/

namespace TagSchema
namespace Text

/-- The pieces of a text between separating characters, empty ones included. -/
def pieces (separates : Char → Bool) : List Char → List (List Char)
  | [] => [[]]
  | c :: rest =>
    if separates c then
      [] :: pieces separates rest
    else
      match pieces separates rest with
      | [] => [[c]]
      | piece :: more => (c :: piece) :: more

variable {separates : Char → Bool}

theorem pieces_ne_nil (separates : Char → Bool) (text : List Char) : pieces separates text ≠ [] := by
  cases text with
  | nil => simp [pieces]
  | cons c rest =>
      unfold pieces
      split
      · simp
      split <;> simp

/-- A separator ends one piece and opens the next. -/
theorem pieces_append_cons {c : Char} (hc : separates c = true) (before after : List Char) :
    pieces separates (before ++ c :: after) = pieces separates before ++ pieces separates after := by
  induction before with
  | nil => simp [pieces, hc]
  | cons first before ih =>
      rw [List.cons_append, pieces, pieces, ih]
      by_cases hfirst : separates first = true
      · simp [hfirst]
      · cases hpieces : pieces separates before with
        | nil => exact absurd hpieces (pieces_ne_nil separates before)
        | cons piece more => simp [hfirst]

/-- A text without separators is one piece. -/
theorem pieces_of_forall {text : List Char} (h : ∀ c ∈ text, separates c = false) :
    pieces separates text = [text] := by
  induction text with
  | nil => rfl
  | cons first text ih =>
      rw [List.forall_mem_cons] at h
      simp [pieces, h.1, ih h.2]

end Text
end TagSchema
