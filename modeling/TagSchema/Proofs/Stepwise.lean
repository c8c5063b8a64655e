import Mathlib.Data.List.Forall2
import Mathlib.Data.List.Nodup

/-!
# Steps that may fail

A list of steps succeeds when each of them does, and its outcome is the list of their outcomes.

Main results:

- `bind_eq_ok_iff`, `map_eq_ok_iff`: a step after another one, and a step whose outcome is changed.
- `mapM_eq_ok_iff`, `exists_mapM_iff`: one step for each item of a list.
- `mem_of_mapM`, `getElem?_of_mapM`, `map_eq_of_mapM`: the outcomes, as a set, by position and in
  order.
- `mapM_congr`: steps that agree on every item agree on the list, faults included.
- `prefix_of_mapM`: the outcomes of a list start with those of its first items.
- `all_ok_or_first_error`: either every step succeeds, or there is a first one that fails.
- `mapM_of_first_error`: the first step that fails decides.
-/

namespace TagSchema
namespace Stepwise

variable {ε α β : Type}

/-- Two steps succeed when each of them does. -/
theorem bind_eq_ok_iff {step : Except ε α} {next : α → Except ε β} {outcome : β} :
    step >>= next = .ok outcome ↔ ∃ a, step = .ok a ∧ next a = .ok outcome := by
  cases step with
  | error fault => simp [bind, Except.bind]
  | ok a => simp [bind, Except.bind]

theorem map_eq_ok_iff {step : Except ε α} {f : α → β} {outcome : β} :
    step.map f = .ok outcome ↔ ∃ a, step = .ok a ∧ f a = outcome := by
  cases step with
  | error fault => simp [Except.map]
  | ok a => simp [Except.map]

/-- A step after another one succeeds when both do. -/
theorem exists_bind_iff {step : Except ε α} {next : α → Except ε β} :
    (∃ b, step >>= next = .ok b) ↔ ∃ a, step = .ok a ∧ ∃ b, next a = .ok b := by
  simp only [bind_eq_ok_iff]
  exact ⟨fun ⟨b, a, ha, hb⟩ => ⟨a, ha, b, hb⟩, fun ⟨a, ha, b, hb⟩ => ⟨b, a, ha, hb⟩⟩

/-- What is made of the outcome does not matter for success. -/
theorem exists_bind_pure_iff {step : Except ε α} {f : α → β} :
    (∃ b, (step >>= fun a => pure (f a)) = .ok b) ↔ ∃ a, step = .ok a := by
  rw [exists_bind_iff]
  exact exists_congr fun a => and_iff_left ⟨f a, rfl⟩

theorem exists_ok_of_isOk {step : Except ε α} (h : step.isOk = true) : ∃ a, step = .ok a := by
  cases step with
  | error fault => cases h
  | ok a => exact ⟨a, rfl⟩

theorem exists_error_of_isOk {step : Except ε α} (h : step.isOk = false) :
    ∃ fault, step = .error fault := by
  cases step with
  | error fault => exact ⟨fault, rfl⟩
  | ok a => cases h

/-- A step fails when it does not succeed. -/
theorem exists_error_iff {step : Except ε α} :
    (∃ fault, step = .error fault) ↔ ¬ ∃ a, step = .ok a := by
  cases step <;> simp

/-- Steps with the same outcome fail with the same fault or both succeed. -/
theorem of_map_eq_map {γ : Type} {step : Except ε α} {other : Except ε β} {f : α → γ} {g : β → γ}
    (h : step.map f = other.map g) :
    (∃ fault, step = .error fault ∧ other = .error fault) ∨
      ∃ a b, step = .ok a ∧ other = .ok b ∧ f a = g b := by
  cases step with
  | error fault =>
      cases other with
      | error fault' =>
          cases h
          exact Or.inl ⟨fault, rfl, rfl⟩
      | ok b => cases h
  | ok a =>
      cases other with
      | error fault => cases h
      | ok b => exact Or.inr ⟨a, b, rfl, rfl, Except.ok.inj h⟩

/-- One step for each item succeeds when each step does. -/
theorem mapM_eq_ok_iff {step : α → Except ε β} {items : List α} {outcomes : List β} :
    items.mapM step = .ok outcomes ↔ List.Forall₂ (fun a b => step a = .ok b) items outcomes := by
  induction items generalizing outcomes with
  | nil =>
      rw [List.mapM_nil, List.forall₂_nil_left_iff]
      constructor
      · intro h
        cases h
        rfl
      · rintro rfl
        rfl
  | cons a items ih =>
      rw [List.mapM_cons, bind_eq_ok_iff, List.forall₂_cons_left_iff]
      simp only [bind_eq_ok_iff, ih]
      constructor
      · rintro ⟨b, hb, rest, hrest, hpure⟩
        cases hpure
        exact ⟨b, rest, hb, hrest, rfl⟩
      · rintro ⟨b, rest, hb, hrest, rfl⟩
        exact ⟨b, hb, rest, hrest, rfl⟩

/-- The outcomes are those of the single items. -/
theorem mem_of_mapM {step : α → Except ε β} {items : List α} {outcomes : List β}
    (h : items.mapM step = .ok outcomes) {b : β} :
    b ∈ outcomes ↔ ∃ a ∈ items, step a = .ok b := by
  rw [mapM_eq_ok_iff] at h
  induction h with
  | nil => simp
  | @cons a first items outcomes hfirst _ ih =>
      rw [List.mem_cons, List.exists_mem_cons_iff, ih, hfirst, Except.ok.injEq, eq_comm]

/-- The outcome at a position is that of the item there. -/
theorem getElem?_of_mapM {step : α → Except ε β} {items : List α} {outcomes : List β}
    (h : items.mapM step = .ok outcomes) {position : Nat} {a : α}
    (ha : items[position]? = some a) : ∃ b, outcomes[position]? = some b ∧ step a = .ok b := by
  rw [mapM_eq_ok_iff] at h
  induction h generalizing position with
  | nil => simp at ha
  | cons hfirst _ ih =>
      cases position with
      | zero =>
          cases ha
          exact ⟨_, rfl, hfirst⟩
      | succ position => exact ih ha

/-- What the steps keep of the items is kept of the list. -/
theorem map_eq_of_mapM {γ : Type} {step : α → Except ε β} {items : List α} {outcomes : List β}
    {f : α → γ} {g : β → γ} (h : items.mapM step = .ok outcomes)
    (hstep : ∀ a b, step a = .ok b → g b = f a) : outcomes.map g = items.map f := by
  rw [mapM_eq_ok_iff] at h
  induction h with
  | nil => rfl
  | cons hfirst _ ih => rw [List.map_cons, List.map_cons, hstep _ _ hfirst, ih]

theorem length_of_mapM {step : α → Except ε β} {items : List α} {outcomes : List β}
    (h : items.mapM step = .ok outcomes) : outcomes.length = items.length :=
  (mapM_eq_ok_iff.1 h).length_eq.symm

/-- One step for each item succeeds exactly when each step does. -/
theorem exists_mapM_iff {step : α → Except ε β} {items : List α} :
    (∃ outcomes, items.mapM step = .ok outcomes) ↔ ∀ a ∈ items, ∃ b, step a = .ok b := by
  simp only [mapM_eq_ok_iff]
  induction items with
  | nil => simp
  | cons a items ih =>
      rw [List.forall_mem_cons, ← ih]
      constructor
      · rintro ⟨_, _ | ⟨hfirst, hrest⟩⟩
        exact ⟨⟨_, hfirst⟩, _, hrest⟩
      · rintro ⟨⟨first, hfirst⟩, rest, hrest⟩
        exact ⟨first :: rest, .cons hfirst hrest⟩

/-- Steps that agree on every item agree on the list. -/
theorem mapM_congr {step other : α → Except ε β} {items : List α}
    (h : ∀ a ∈ items, step a = other a) : items.mapM step = items.mapM other := by
  induction items with
  | nil => rfl
  | cons a items ih =>
      rw [List.mapM_cons, List.mapM_cons, h a List.mem_cons_self,
        ih fun b hb => h b (List.mem_cons_of_mem a hb)]

/-- The outcomes of the first items come first. -/
theorem prefix_of_mapM {step : α → Except ε β} {items more : List α} {outcomes others : List β}
    (h : items <+: more) (hitems : items.mapM step = .ok outcomes)
    (hmore : more.mapM step = .ok others) : outcomes <+: others := by
  obtain ⟨rest, rfl⟩ := h
  simp only [List.mapM_append, bind_eq_ok_iff] at hmore
  obtain ⟨first, hfirst, last, _, hothers⟩ := hmore
  rw [hitems] at hfirst
  cases hfirst
  cases hothers
  exact List.prefix_append outcomes last

/-- Either every step succeeds, or there is a first one that fails. -/
theorem all_ok_or_first_error (step : α → Except ε β) (items : List α) :
    (∀ a ∈ items, ∃ b, step a = .ok b) ∨
      ∃ before a after fault, items = before ++ a :: after ∧
        (∀ other ∈ before, ∃ b, step other = .ok b) ∧ step a = .error fault := by
  induction items with
  | nil => exact Or.inl fun a ha => absurd ha List.not_mem_nil
  | cons a items ih =>
      cases hstep : step a with
      | error fault =>
          exact Or.inr ⟨[], a, items, fault, rfl, fun b hb => absurd hb List.not_mem_nil, hstep⟩
      | ok b =>
          have hfirst : ∃ b, step a = .ok b := ⟨b, hstep⟩
          rcases ih with hall | ⟨before, c, after, fault, rfl, hbefore, hc⟩
          · exact Or.inl (List.forall_mem_cons.2 ⟨hfirst, hall⟩)
          · exact Or.inr ⟨a :: before, c, after, fault, rfl,
              List.forall_mem_cons.2 ⟨hfirst, hbefore⟩, hc⟩

/-- The first step that fails decides, whatever comes after it. -/
theorem mapM_of_first_error {step : α → Except ε β} {before after : List α} {a : α} {fault : ε}
    (hbefore : ∀ other ∈ before, ∃ b, step other = .ok b) (ha : step a = .error fault) :
    (before ++ a :: after).mapM step = .error fault := by
  induction before with
  | nil => rw [List.nil_append, List.mapM_cons, ha]; rfl
  | cons other before ih =>
      obtain ⟨⟨b, hb⟩, hbefore⟩ := List.forall_mem_cons.1 hbefore
      rw [List.cons_append, List.mapM_cons, hb, ih hbefore]
      rfl

/-- Nothing is erased from a list without repetitions. -/
theorem eraseDups_of_nodup [DecidableEq α] {items : List α} (h : items.Nodup) :
    items.eraseDups = items := by
  induction items with
  | nil => rfl
  | cons a items ih =>
      obtain ⟨ha, hitems⟩ := List.nodup_cons.1 h
      have hkept : items.filter (fun b => !b == a) = items := by
        rw [List.filter_eq_self]
        intro b hb
        have hne : b ≠ a := fun heq => ha (heq ▸ hb)
        simp [hne]
      rw [List.eraseDups_cons, hkept, ih hitems]

/-- Nothing comes twice after repetitions are erased. -/
theorem nodup_eraseDups [DecidableEq α] : ∀ items : List α, items.eraseDups.Nodup
  | [] => List.nodup_nil
  | a :: items => by
      have hrest := nodup_eraseDups (items.filter fun b => !b == a)
      rw [List.eraseDups_cons, List.nodup_cons, List.mem_eraseDups]
      exact ⟨by simp, hrest⟩
termination_by items => items.length
decreasing_by exact Nat.lt_succ_of_le (List.length_filter_le _ _)

end Stepwise
end TagSchema
