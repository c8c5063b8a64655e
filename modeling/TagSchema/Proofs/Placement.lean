import TagSchema.Catalog.Order
import TagSchema.Proofs.Precedence

/-!
# Placing items in turn

`placeReady` takes the first item that waits for nothing, again and again. These are the facts about
it that do not depend on where the items come from: every item is placed or left, a placed item
comes after what it needs, an item that is left waits for another one that is left, and no other
arrangement of the placed items comes earlier in lexicographic order.

Main results:

- `placeReady_perm`: nothing is lost and nothing is placed twice.
- `placeReady_precedes`: what a placed item needs is placed before it.
- `mem_placeReady_fst_iff`: the items that are placed are those that reach no cycle.
- `placeReady_keeps`: an item is only overtaken by items that it would have had to wait for.
- `placeReady_eq_or_lex`: the placement is the least arrangement in which needs come first.
-/

namespace TagSchema
namespace Order

variable {α : Type} [DecidableEq α] {needs : α → List α}

/-! ## One step -/

/-- Nothing that an item needs is waiting. -/
def Ready (needs : α → List α) (waiting : List α) (x : α) : Prop :=
  ∀ y ∈ needs x, y ∉ waiting

/-- An item passes the test when it is ready. -/
theorem ready_iff {waiting : List α} {x : α} :
    ((needs x).all (!waiting.contains ·)) = true ↔ Ready needs waiting x := by
  simp [Ready]

/-- When no waiting item is ready, nothing is placed. -/
theorem placeReady_of_stuck {waiting : List α} (hstuck : ∀ x ∈ waiting, ¬ Ready needs waiting x) :
    placeReady needs waiting = ([], waiting) := by
  have hnone : waiting.find? (fun x => (needs x).all (!waiting.contains ·)) = none := by
    rw [List.find?_eq_none]
    intro x hx
    rw [ready_iff]
    exact hstuck x hx
  rw [placeReady]
  split
  · rfl
  · rename_i hsome
    rw [hnone] at hsome
    contradiction

/-- What the first ready item is: it waits, it is ready, and it precedes all others that are. -/
structure FirstReady (needs : α → List α) (waiting : List α) (x : α) : Prop where
  waits : x ∈ waiting
  ready : Ready needs waiting x
  first : ∀ y ∈ waiting, Ready needs waiting y → x = y ∨ Precedes waiting x y
  placed : placeReady needs waiting =
    (x :: (placeReady needs (waiting.erase x)).1, (placeReady needs (waiting.erase x)).2)

/-- Either some item is the first ready one, or all items are stuck. -/
theorem firstReady_or_stuck (needs : α → List α) (waiting : List α) :
    (∃ x, FirstReady needs waiting x) ∨ ∀ x ∈ waiting, ¬ Ready needs waiting x := by
  cases hfind : waiting.find? (fun x => (needs x).all (!waiting.contains ·)) with
  | none =>
      right
      intro x hx hready
      exact List.find?_eq_none.1 hfind x hx (ready_iff.2 hready)
  | some x =>
      left
      have hready := List.find?_some hfind
      refine ⟨x, List.mem_of_find?_eq_some hfind, ready_iff.1 hready, ?_, ?_⟩
      · intro y hy hready
        exact precedes_of_find? hfind hy (ready_iff.2 hready)
      · rw [placeReady]
        split <;> rename_i hfound
        · rw [hfind] at hfound
          contradiction
        · rw [hfind] at hfound
          cases hfound
          rfl

/-- Induction along the items that are placed. -/
theorem placeReady_induction (needs : α → List α) {motive : List α → Prop}
    (stuck : ∀ waiting, (∀ x ∈ waiting, ¬ Ready needs waiting x) → motive waiting)
    (step : ∀ waiting x, FirstReady needs waiting x → motive (waiting.erase x) → motive waiting)
    (waiting : List α) : motive waiting := by
  induction hlength : waiting.length using Nat.strong_induction_on generalizing waiting with
  | _ length ih =>
      rcases firstReady_or_stuck needs waiting with ⟨x, hx⟩ | hstuck
      · have hshorter : (waiting.erase x).length < length := by
          have hpositive := List.length_pos_of_mem hx.waits
          rw [List.length_erase_of_mem hx.waits]
          omega
        exact step waiting x hx (ih _ hshorter _ rfl)
      · exact stuck waiting hstuck

/-! ## What is placed and what is left -/

/-- Every item is either placed or left, once. -/
theorem placeReady_perm (needs : α → List α) (waiting : List α) :
    ((placeReady needs waiting).1 ++ (placeReady needs waiting).2).Perm waiting := by
  induction waiting using (placeReady_induction needs) with
  | stuck waiting hstuck => simp [placeReady_of_stuck hstuck]
  | step waiting x hx ih =>
      rw [hx.placed]
      exact (ih.cons x).trans (List.perm_cons_erase hx.waits).symm

theorem mem_placeReady (needs : α → List α) {waiting : List α} {x : α} :
    x ∈ waiting ↔ x ∈ (placeReady needs waiting).1 ∨ x ∈ (placeReady needs waiting).2 := by
  rw [← (placeReady_perm needs waiting).mem_iff, List.mem_append]

theorem placeReady_nodup (needs : α → List α) {waiting : List α} (hnodup : waiting.Nodup) :
    ((placeReady needs waiting).1 ++ (placeReady needs waiting).2).Nodup :=
  (placeReady_perm needs waiting).nodup_iff.2 hnodup

/-- An item that is left needs another one that is left. -/
theorem exists_needs_of_left {waiting : List α} {x : α} (hx : x ∈ (placeReady needs waiting).2) :
    ∃ y ∈ (placeReady needs waiting).2, Needs needs x y := by
  induction waiting using (placeReady_induction needs) with
  | stuck waiting hstuck =>
      rw [placeReady_of_stuck hstuck] at hx ⊢
      have hwaits := hstuck x hx
      simp only [Ready, not_forall, not_not] at hwaits
      obtain ⟨y, hneeds, hy⟩ := hwaits
      exact ⟨y, hy, hneeds⟩
  | step waiting c hc ih =>
      rw [hc.placed] at hx ⊢
      exact ih hx

/-- A placed item comes after every waiting item that it needs. -/
theorem placeReady_precedes {waiting : List α} (hnodup : waiting.Nodup) {x y : α}
    (hx : x ∈ (placeReady needs waiting).1) (hneeds : Needs needs x y) (hy : y ∈ waiting) :
    Precedes (placeReady needs waiting).1 y x := by
  induction waiting using (placeReady_induction needs) with
  | stuck waiting hstuck => simp [placeReady_of_stuck hstuck] at hx
  | step waiting c hc ih =>
      rw [hc.placed] at hx ⊢
      rw [precedes_cons_iff]
      rcases List.mem_cons.1 hx with rfl | hx
      · exact absurd hy (hc.ready y hneeds)
      · by_cases hyc : y = c
        · exact Or.inl ⟨hyc, hx⟩
        · exact Or.inr (ih (hnodup.erase c) hx ((List.mem_erase_of_ne hyc).2 hy))

/-! ## Cycles -/

/-- Behind an item that is left there is a cycle. -/
theorem reachesCycle_of_left [Finite α] {waiting : List α} {x : α}
    (hx : x ∈ (placeReady needs waiting).2) : ReachesCycle needs x := by
  by_contra hfree
  induction x using (freeStep_wellFounded needs).induction with
  | _ x ih =>
      obtain ⟨y, hy, hneeds⟩ := exists_needs_of_left hx
      have hfreeY : ¬ ReachesCycle needs y := fun hcycle => hfree (hcycle.of_needs hneeds)
      exact ih y ⟨hneeds, hfree⟩ hy hfreeY

/-- Along a path of needs from a placed item, everything is placed before it. -/
theorem placeReady_precedes_of_properPath {waiting : List α} (hnodup : waiting.Nodup)
    (hall : ∀ x, x ∈ waiting) {x y : α} (hx : x ∈ (placeReady needs waiting).1)
    (hpath : ProperPath needs x y) : Precedes (placeReady needs waiting).1 y x := by
  have hplaced := (List.nodup_append.1 (placeReady_nodup needs hnodup)).1
  induction hpath with
  | single hneeds => exact placeReady_precedes hnodup hx hneeds (hall _)
  | tail _ hneeds ih =>
      exact (placeReady_precedes hnodup ih.mem_left hneeds (hall _)).trans hplaced ih

/-- When all items wait, those that are placed are the ones that reach no cycle. -/
theorem mem_placeReady_fst_iff [Finite α] {waiting : List α} (hnodup : waiting.Nodup)
    (hall : ∀ x, x ∈ waiting) {x : α} :
    x ∈ (placeReady needs waiting).1 ↔ ¬ ReachesCycle needs x := by
  constructor
  · rintro hx ⟨y, hpath, hcycle⟩
    have hy : y ∈ (placeReady needs waiting).1 := by
      rcases Relation.reflTransGen_iff_eq_or_transGen.1 hpath with rfl | hproper
      · exact hx
      · exact (placeReady_precedes_of_properPath hnodup hall hx hproper).mem_left
    have hself := placeReady_precedes_of_properPath hnodup hall hy hcycle
    exact hself.ne (List.nodup_append.1 (placeReady_nodup needs hnodup)).1 rfl
  · intro hfree
    rcases (mem_placeReady needs).1 (hall x) with hx | hx
    · exact hx
    · exact absurd (reachesCycle_of_left hx) hfree

/-! ## Needs without cycles -/

/-- Without cycles nothing is left. -/
theorem placeReady_snd_eq_nil [Finite α] (hacyclic : ∀ x, ¬ ProperPath needs x x)
    (waiting : List α) : (placeReady needs waiting).2 = [] := by
  rw [List.eq_nil_iff_forall_not_mem]
  intro x hx
  obtain ⟨y, _, hcycle⟩ := reachesCycle_of_left hx
  exact hacyclic y hcycle

/-- Without cycles every item is placed. -/
theorem placeReady_fst_perm [Finite α] (hacyclic : ∀ x, ¬ ProperPath needs x x)
    (waiting : List α) : (placeReady needs waiting).1.Perm waiting := by
  have hperm := placeReady_perm needs waiting
  rwa [placeReady_snd_eq_nil hacyclic, List.append_nil] at hperm

omit [DecidableEq α] in
/-- Among the waiting items that an item needs or is, one is ready. -/
theorem exists_ready_of_path [Finite α] (hacyclic : ∀ x, ¬ ProperPath needs x x)
    {waiting : List α} {y : α} (hy : y ∈ waiting) :
    ∃ z ∈ waiting, Path needs y z ∧ Ready needs waiting z := by
  have hfree : ∀ x, ¬ ReachesCycle needs x := fun x ⟨z, _, hcycle⟩ => hacyclic z hcycle
  induction y using (freeStep_wellFounded needs).induction with
  | _ y ih =>
      by_cases hready : Ready needs waiting y
      · exact ⟨y, hy, Relation.ReflTransGen.refl, hready⟩
      · simp only [Ready, not_forall, not_not] at hready
        obtain ⟨d, hneeds, hd⟩ := hready
        obtain ⟨z, hz, hpath, hready⟩ := ih d ⟨hneeds, hfree y⟩ hd
        exact ⟨z, hz, hpath.head hneeds, hready⟩

/-- An item that waits for nothing behind another item is placed before it: when everything on its
paths of needs stands before the other item, so does the item itself after placing. -/
theorem placeReady_keeps [Finite α] (hacyclic : ∀ x, ¬ ProperPath needs x x) {waiting : List α}
    (hnodup : waiting.Nodup) {x y : α} (hy : y ∈ waiting)
    (hbefore : ∀ z ∈ waiting, Path needs y z → Precedes waiting z x) :
    Precedes (placeReady needs waiting).1 y x := by
  induction waiting using (placeReady_induction needs) with
  | stuck waiting hstuck =>
      obtain ⟨z, hz, _, hready⟩ := exists_ready_of_path hacyclic hy
      exact absurd hready (hstuck z hz)
  | step waiting c hc ih =>
      obtain ⟨z, hz, hpath, hready⟩ := exists_ready_of_path hacyclic hy
      have hzx := hbefore z hz hpath
      -- the other item cannot be the first ready one: something ready stands before it
      have hxc : x ≠ c := by
        rintro rfl
        rcases hc.first z hz hready with rfl | hxz
        · exact hzx.ne hnodup rfl
        · exact hzx.asymm hnodup hxz
      rw [hc.placed, precedes_cons_iff]
      by_cases hyc : y = c
      · refine Or.inl ⟨hyc, ?_⟩
        rw [(placeReady_fst_perm hacyclic _).mem_iff]
        exact (List.mem_erase_of_ne hxc).2 hzx.mem_right
      · refine Or.inr (ih (hnodup.erase c) ((List.mem_erase_of_ne hyc).2 hy) ?_)
        intro z hz hpath
        have hzc : z ≠ c := fun h => hnodup.not_mem_erase (h ▸ hz)
        exact (hbefore z (List.mem_of_mem_erase hz) hpath).erase hzc hxc

/-! ## Least arrangements -/

/-- The first ready item of an increasing list is the least ready one. -/
theorem FirstReady.le {n : Nat} {needs : Fin n → List (Fin n)} {waiting : List (Fin n)}
    {c d : Fin n} (hc : FirstReady needs waiting c) (hsorted : waiting.Pairwise (· < ·))
    (hd : d ∈ waiting) (hready : Ready needs waiting d) : c = d ∨ c < d := by
  rcases hc.first d hd hready with rfl | hcd
  · exact Or.inl rfl
  · right
    have hpair := hsorted.sublist hcd
    simpa using hpair

/-- Every other arrangement of the placed items in which needs come first is lexicographically
greater. -/
theorem placeReady_eq_or_lex {n : Nat} {needs : Fin n → List (Fin n)} {waiting : List (Fin n)}
    (hsorted : waiting.Pairwise (· < ·)) {other : List (Fin n)}
    (hperm : other.Perm (placeReady needs waiting).1)
    (hother : ∀ x ∈ other, ∀ y ∈ waiting, Needs needs x y → Precedes other y x) :
    (placeReady needs waiting).1 = other ∨
      List.Lex (· < ·) (placeReady needs waiting).1 other := by
  induction waiting using (placeReady_induction needs) generalizing other with
  | stuck waiting hstuck =>
      rw [placeReady_of_stuck hstuck] at hperm ⊢
      exact Or.inl hperm.eq_nil.symm
  | step waiting c hc ih =>
      have hnodup : waiting.Nodup := hsorted.imp (fun h => ne_of_lt h)
      have hplaced := (List.nodup_append.1 (placeReady_nodup needs hnodup)).1
      have hotherNodup := hperm.nodup_iff.2 hplaced
      have hwaits : ∀ x ∈ other, x ∈ waiting := fun x hx =>
        (mem_placeReady needs).2 (Or.inl (hperm.mem_iff.1 hx))
      rw [hc.placed] at hperm ⊢
      cases other with
      | nil => simp at hperm
      | cons d other =>
          -- the other arrangement starts with a ready item as well
          have hready : Ready needs waiting d := fun y hneeds hy =>
            not_precedes_head hotherNodup (hother d List.mem_cons_self y hy hneeds)
          rcases hc.le hsorted (hwaits d List.mem_cons_self) hready with rfl | hlt
          · have hrest : ∀ x ∈ other, ∀ y ∈ waiting.erase c, Needs needs x y →
                Precedes other y x := by
              intro x hx y hy hneeds
              have hyx := hother x (List.mem_cons_of_mem c hx) y (List.mem_of_mem_erase hy) hneeds
              rcases precedes_cons_iff.1 hyx with ⟨rfl, _⟩ | hyx
              · exact absurd hy hnodup.not_mem_erase
              · exact hyx
            rcases ih (hsorted.sublist List.erase_sublist) hperm.cons_inv hrest with heq | hlex
            · exact Or.inl (congrArg (c :: ·) heq)
            · exact Or.inr (List.Lex.cons hlex)
          · exact Or.inr (List.Lex.rel hlt)

end Order
end TagSchema
