import TagSchema.Proofs.Stepwise

/-!
# Steps in lockstep

Two computations are in lockstep when they fail with the same fault, or when both succeed and their
outcomes are related. Computations that are put together from steps in lockstep are in lockstep.

Main results:

- `Lockstep.bind`: a step after another one.
- `Lockstep.mapM`: one step for each item of a list.
- `Lockstep.foldlM`: a run that keeps a relation between its states.
-/

namespace TagSchema

variable {ε α β γ δ : Type}

/-- Two steps fail with the same fault, or both succeed with outcomes that are related. -/
inductive Lockstep (R : α → β → Prop) : Except ε α → Except ε β → Prop where
  | failed (fault : ε) : Lockstep R (.error fault) (.error fault)
  | done {a : α} {b : β} (h : R a b) : Lockstep R (.ok a) (.ok b)

namespace Lockstep

variable {R : α → β → Prop} {S : γ → δ → Prop} {first : Except ε α} {second : Except ε β}

/-- A step is in lockstep with itself when its outcome is related to itself. -/
theorem refl {R : α → α → Prop} (step : Except ε α) (h : ∀ a, R a a) : Lockstep R step step := by
  cases step with
  | error fault => exact .failed fault
  | ok a => exact .done (h a)

theorem mono {R' : α → β → Prop} (h : Lockstep R first second) (hR : ∀ a b, R a b → R' a b) :
    Lockstep R' first second := by
  cases h with
  | failed fault => exact .failed fault
  | done h => exact .done (hR _ _ h)

/-- Steps in lockstep, followed by steps in lockstep. -/
theorem bind {next : α → Except ε γ} {other : β → Except ε δ} (h : Lockstep R first second)
    (hnext : ∀ a b, R a b → Lockstep S (next a) (other b)) :
    Lockstep S (first >>= next) (second >>= other) := by
  cases h with
  | failed fault => exact .failed fault
  | done h => exact hnext _ _ h

/-- The outcomes of one step for each item are related item by item. -/
theorem mapM {step : γ → Except ε α} {other : γ → Except ε β} {items : List γ}
    (h : ∀ item ∈ items, Lockstep R (step item) (other item)) :
    Lockstep (List.Forall₂ R) (items.mapM step) (items.mapM other) := by
  induction items with
  | nil => exact .done .nil
  | cons item items ih =>
      have hfirst := h item List.mem_cons_self
      have hrest := ih fun later hlater => h later (List.mem_cons_of_mem item hlater)
      rw [List.mapM_cons, List.mapM_cons]
      apply hfirst.bind
      intro a b hab
      apply hrest.bind
      intro as bs hrest
      exact .done (.cons hab hrest)

/-- When every step of a run keeps a relation between the states, the whole run does. -/
theorem foldlM {step : α → γ → Except ε α} {other : β → γ → Except ε β} {items : List γ}
    (hstep : ∀ a b, R a b → ∀ item ∈ items, Lockstep R (step a item) (other b item)) {a : α} {b : β}
    (h : R a b) : Lockstep R (items.foldlM step a) (items.foldlM other b) := by
  induction items generalizing a b with
  | nil => exact .done h
  | cons item items ih =>
      rw [List.foldlM_cons, List.foldlM_cons]
      apply (hstep a b h item List.mem_cons_self).bind
      intro a' b' h'
      exact ih
        (fun a b hab later hlater => hstep a b hab later (List.mem_cons_of_mem item hlater)) h'

/-- When one of two steps in lockstep succeeds, so does the other. -/
theorem exists_related (h : Lockstep R first second) {a : α} (hfirst : first = .ok a) :
    ∃ b, second = .ok b ∧ R a b := by
  cases h with
  | failed fault => cases hfirst
  | done h =>
      cases hfirst
      exact ⟨_, rfl, h⟩

/-- Steps in lockstep succeed together. -/
theorem exists_ok_iff (h : Lockstep R first second) :
    (∃ a, first = .ok a) ↔ ∃ b, second = .ok b := by
  cases h with
  | failed fault => simp
  | done h => simp

end Lockstep
end TagSchema
