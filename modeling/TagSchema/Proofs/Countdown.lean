import Mathlib.Data.List.Sort
import TagSchema.Proofs.Placement

/-!
# Counting open needs

The counts of a tally say how many needs of each item still wait. While items are placed, every
count that has to go down is positive, so counting never fails, and it places the items that
`placeReady` places.

Main results:

- `Tally.foldlM_countDown?`: counting down once for each of some items with a positive count.
- `Tally.Counts.next`: placing the least ready item keeps the counts right.
- `placeCounting?_eq`: counting places what `placeReady` places.
-/

namespace TagSchema
namespace Order

variable {n : Nat}

/-! ## Increasing items -/

theorem mem_insertItem {x y : Fin n} {items : List (Fin n)} :
    y ∈ insertItem x items ↔ y = x ∨ y ∈ items := by
  induction items with
  | nil => simp [insertItem]
  | cons first rest ih =>
      simp only [insertItem]
      split
      · simp
      · split
        · rename_i heq
          simp [heq]
        · rw [List.mem_cons, ih, List.mem_cons, or_left_comm]

/-- Inserting an item keeps the items increasing. -/
theorem insertItem_increasing (x : Fin n) {items : List (Fin n)}
    (hitems : items.Pairwise (· < ·)) : (insertItem x items).Pairwise (· < ·) := by
  induction items with
  | nil => simp [insertItem]
  | cons first rest ih =>
      rw [List.pairwise_cons] at hitems
      simp only [insertItem]
      split <;> rename_i hlt
      · refine List.pairwise_cons.2 ⟨?_, List.pairwise_cons.2 hitems⟩
        intro y hy
        rcases List.mem_cons.1 hy with rfl | hy
        · exact hlt
        · exact hlt.trans (hitems.1 y hy)
      · split <;> rename_i heq
        · exact List.pairwise_cons.2 hitems
        · refine List.pairwise_cons.2 ⟨?_, ih hitems.2⟩
          intro y hy
          rcases mem_insertItem.1 hy with rfl | hy
          · exact lt_of_le_of_ne (not_lt.1 hlt) (Ne.symm heq)
          · exact hitems.1 y hy

/-! ## Items that need an item -/

@[simp]
theorem mem_dependents {needs : Fin n → List (Fin n)} {c x : Fin n} :
    x ∈ dependents needs c ↔ c ∈ needs x := by
  simp [dependents]

theorem dependents_nodup (needs : Fin n → List (Fin n)) (c : Fin n) :
    (dependents needs c).Nodup :=
  (List.nodup_finRange n).filter _

/-! ## Counting down -/

namespace Tally

/-- A change to the ready items changes no count. -/
@[simp]
theorem count_ready (tally : Tally n) (ready : List (Fin n)) (x : Fin n) :
    ({ tally with ready } : Tally n).count x = tally.count x := rfl

/-- A new count for one item leaves the other counts as they are. -/
theorem count_set (tally : Tally n) (x : Fin n) (value : Nat) (ready : List (Fin n)) (y : Fin n) :
    (⟨tally.counts.set x value x.isLt, ready⟩ : Tally n).count y =
      if y = x then value else tally.count y := by
  simp only [count, Vector.getElem_set, Fin.ext_iff, eq_comm]

/-- Counting down succeeds on a positive count and takes one off it. -/
theorem countDown?_of_pos {tally : Tally n} {x : Fin n} (hpositive : 0 < tally.count x) :
    ∃ next, tally.countDown? x = some next ∧
      (∀ y : Fin n, next.count y =
        if y = x then tally.count x - 1 else tally.count y) ∧
      next.ready = if tally.count x = 1 then insertItem x tally.ready else tally.ready := by
  unfold countDown?
  split <;> rename_i hcount
  · omega
  · refine ⟨_, rfl, fun y => ?_, by simp [hcount]⟩
    rw [count_set, hcount]
  · refine ⟨_, rfl, fun y => ?_, by simp [hcount]⟩
    rw [count_set, hcount, Nat.add_one_sub_one]

/-- Counting down once for each of some items whose counts are positive. -/
theorem foldlM_countDown? {items : List (Fin n)} {tally : Tally n} (hnodup : items.Nodup)
    (hpositive : ∀ x ∈ items, 0 < tally.count x)
    (hready : tally.ready.Pairwise (· < ·)) :
    ∃ next, items.foldlM countDown? tally = some next ∧
      (∀ y : Fin n, next.count y =
        if y ∈ items then tally.count y - 1 else tally.count y) ∧
      (∀ y, y ∈ next.ready ↔ y ∈ tally.ready ∨ y ∈ items ∧ tally.count y = 1) ∧
      next.ready.Pairwise (· < ·) := by
  induction items generalizing tally with
  | nil => exact ⟨tally, rfl, by simp, by simp, hready⟩
  | cons x items ih =>
      obtain ⟨hx, hitems⟩ := List.nodup_cons.1 hnodup
      obtain ⟨middle, hmiddle, hcounts, hmiddleReady⟩ :=
        countDown?_of_pos (hpositive x List.mem_cons_self)
      -- the item itself does not come again, so the other counts are still what they were
      have hsame : ∀ y ∈ items, middle.count y = tally.count y := by
        intro y hy
        have hyx : y ≠ x := fun h => hx (h ▸ hy)
        rw [hcounts, if_neg hyx]
      have hmiddleIncreasing : middle.ready.Pairwise (· < ·) := by
        rw [hmiddleReady]
        split
        · exact insertItem_increasing x hready
        · exact hready
      have hmiddlePositive : ∀ y ∈ items, 0 < middle.count y := by
        intro y hy
        rw [hsame y hy]
        exact hpositive y (List.mem_cons_of_mem x hy)
      obtain ⟨next, hnext, hnextCounts, hnextReady, hincreasing⟩ :=
        ih hitems hmiddlePositive hmiddleIncreasing
      refine ⟨next, ?_, ?_, ?_, hincreasing⟩
      · rw [List.foldlM_cons, hmiddle]
        exact hnext
      · intro y
        rw [hnextCounts, hcounts]
        by_cases hyx : y = x
        · subst hyx
          simp [hx]
        · simp [hyx]
      · intro y
        rw [hnextReady, hmiddleReady]
        by_cases hyx : y = x
        · subst hyx
          split <;> rename_i hone <;> simp [hx, hone, mem_insertItem]
        · have hmem : y ∈ (if tally.count x = 1 then insertItem x tally.ready
              else tally.ready) ↔ y ∈ tally.ready := by
            split
            · simp [mem_insertItem, hyx]
            · rfl
          rw [hmem, List.mem_cons, hcounts, if_neg hyx]
          simp [hyx]

/-! ## What the counts mean -/

/-- The number of things that an item needs and that wait. -/
def openNeeds (needs : Fin n → List (Fin n)) (waiting : List (Fin n)) (x : Fin n) : Nat :=
  (needs x).countP (waiting.contains ·)

/-- An item without open needs is ready. -/
theorem openNeeds_eq_zero_iff {needs : Fin n → List (Fin n)} {waiting : List (Fin n)} {x : Fin n} :
    openNeeds needs waiting x = 0 ↔ Ready needs waiting x := by
  simp [openNeeds, Ready, List.countP_eq_zero]

/-- Taking an item out of the waiting ones closes one need of each item that needs it. -/
theorem openNeeds_erase {needs : Fin n → List (Fin n)} {waiting : List (Fin n)} {c x : Fin n}
    (hneeds : (needs x).Nodup) (hwaiting : waiting.Nodup) (hc : c ∈ waiting) :
    openNeeds needs waiting x =
      openNeeds needs (waiting.erase c) x + if c ∈ needs x then 1 else 0 := by
  unfold openNeeds
  generalize needs x = needed at hneeds ⊢
  induction needed with
  | nil => simp
  | cons y rest ih =>
      obtain ⟨hy, hrest⟩ := List.nodup_cons.1 hneeds
      rw [List.countP_cons, List.countP_cons, ih hrest]
      by_cases hyc : y = c
      · subst hyc
        simp [hy, hc, hwaiting.mem_erase_iff]
      · have hcy : c ≠ y := Ne.symm hyc
        simp only [List.contains_eq_mem, hwaiting.mem_erase_iff, hyc, List.mem_cons, hcy, ne_eq,
          not_false_eq_true, true_and, false_or]
        omega

/-- A tally is right about the items that wait: its counts are the numbers of open needs, its ready
items are the waiting items without any, and nothing is open for an item that no longer waits. -/
structure Counts (needs : Fin n → List (Fin n)) (waiting : List (Fin n)) (tally : Tally n) :
    Prop where
  counts : ∀ x : Fin n, tally.count x = openNeeds needs waiting x
  ready : ∀ x, x ∈ tally.ready ↔ x ∈ waiting ∧ Ready needs waiting x
  increasing : tally.ready.Pairwise (· < ·)
  settled : ∀ x, x ∉ waiting → Ready needs waiting x

/-- The first tally is right when everything waits. -/
theorem start_counts (needs : Fin n → List (Fin n)) :
    Counts needs (List.finRange n) (start needs) where
  counts := by
    intro x
    simp [start, count, openNeeds]
  ready := by
    intro x
    simp [start, Ready, List.eq_nil_iff_forall_not_mem]
  increasing := (List.pairwise_lt_finRange n).filter _
  settled := by
    intro x hx
    exact absurd (List.mem_finRange x) hx

/-- The items that need the placed item have positive counts. -/
theorem Counts.positive {needs : Fin n → List (Fin n)} {waiting : List (Fin n)} {tally : Tally n}
    (h : Counts needs waiting tally) {c x : Fin n} (hc : c ∈ waiting) (hx : c ∈ needs x) :
    0 < tally.count x := by
  rw [h.counts, Nat.pos_iff_ne_zero, Ne, openNeeds_eq_zero_iff]
  intro hready
  exact hready c hx hc

/-- Placing a ready item and counting down for the items that need it gives a tally that is right
about the rest. -/
theorem Counts.next {needs : Fin n → List (Fin n)} {waiting ready : List (Fin n)}
    {tally : Tally n} {c : Fin n} (h : Counts needs waiting tally)
    (hneeds : ∀ x, (needs x).Nodup) (hwaiting : waiting.Nodup) (hfirst : tally.ready = c :: ready) :
    ∃ next, (dependents needs c).foldlM countDown? { tally with ready } = some next ∧
      Counts needs (waiting.erase c) next := by
  have hincreasing := h.increasing
  rw [hfirst, List.pairwise_cons] at hincreasing
  obtain ⟨hc, hcReady⟩ := (h.ready c).1 (by simp [hfirst])
  have hpositive : ∀ x ∈ dependents needs c,
      0 < ({ tally with ready } : Tally n).count x := by
    intro x hx
    exact h.positive hc (mem_dependents.1 hx)
  obtain ⟨next, hnext, hcounts, hready, hnextIncreasing⟩ :=
    foldlM_countDown? (dependents_nodup needs c) hpositive hincreasing.2
  have herase := fun x => openNeeds_erase (hneeds x) hwaiting hc
  refine ⟨next, hnext, ?_, ?_, hnextIncreasing, ?_⟩
  · intro x
    rw [hcounts, count_ready, h.counts, herase x]
    by_cases hx : c ∈ needs x <;> simp [hx]
  · intro x
    have hrest : x ∈ ready ↔ x ≠ c ∧ x ∈ waiting ∧ openNeeds needs waiting x = 0 := by
      have hcNot : c ∉ ready := fun hmem => lt_irrefl c (hincreasing.1 c hmem)
      rw [openNeeds_eq_zero_iff, ← h.ready x, hfirst, List.mem_cons]
      constructor
      · intro hx
        exact ⟨fun h => hcNot (h ▸ hx), Or.inr hx⟩
      · rintro ⟨hne, rfl | hx⟩
        · exact absurd rfl hne
        · exact hx
    rw [hready, mem_dependents, hwaiting.mem_erase_iff, ← openNeeds_eq_zero_iff, and_assoc]
    by_cases hx : c ∈ needs x
    · -- one more need was open, so the item becomes ready exactly now
      have hopen := herase x
      rw [if_pos hx] at hopen
      have hne : x ≠ c := fun heq => hcReady c (heq ▸ hx) hc
      have hwaits : x ∈ waiting := by
        by_contra hx'
        exact h.settled x hx' c hx hc
      simp [hrest, hx, h.counts, hopen, hne, hwaits]
    · have hopen := herase x
      rw [if_neg hx, Nat.add_zero] at hopen
      simp only [hrest, hx, hopen, false_and, or_false]
  · intro x hx y hneeds hy
    have hyWaits := List.mem_of_mem_erase hy
    by_cases hxc : x = c
    · subst hxc
      exact hcReady y hneeds hyWaits
    · have hxWaits : x ∉ waiting := fun hmem => hx ((List.mem_erase_of_ne hxc).2 hmem)
      exact h.settled x hxWaits y hneeds hyWaits

/-! ## The whole countdown -/

/-- When no item is ready, nothing is placed. -/
theorem place?_of_nil {dependents : Fin n → List (Fin n)} {tally : Tally n}
    (hready : tally.ready = []) : tally.place? dependents = some [] := by
  rw [place?]
  split
  · rfl
  · simp_all

/-- The first item that is ready is placed, and what it held up is counted down. -/
theorem place?_of_cons {dependents : Fin n → List (Fin n)} {tally next : Tally n} {c : Fin n}
    {ready : List (Fin n)} (hready : tally.ready = c :: ready)
    (hnext : (dependents c).foldlM countDown? { tally with ready } = some next) :
    tally.place? dependents = (next.place? dependents).map (c :: ·) := by
  rw [place?]
  split
  · simp_all
  · rename_i heq
    rw [hready] at heq
    cases heq
    split
    · simp_all
    · simp_all

/-- From a tally that is right about the waiting items, counting places what `placeReady` places. -/
theorem Counts.place? {needs : Fin n → List (Fin n)} {waiting : List (Fin n)} {tally : Tally n}
    (h : Counts needs waiting tally) (hneeds : ∀ x, (needs x).Nodup)
    (hsorted : waiting.Pairwise (· < ·)) :
    tally.place? (dependents needs) = some (placeReady needs waiting).1 := by
  induction waiting using (placeReady_induction needs) generalizing tally with
  | stuck waiting hstuck =>
      have hready : tally.ready = [] := by
        rw [List.eq_nil_iff_forall_not_mem]
        intro x hx
        obtain ⟨hwaits, hready⟩ := (h.ready x).1 hx
        exact hstuck x hwaits hready
      rw [place?_of_nil hready, placeReady_of_stuck hstuck]
  | step waiting c hc ih =>
      have hmem : c ∈ tally.ready := (h.ready c).2 ⟨hc.waits, hc.ready⟩
      cases hfirst : tally.ready with
      | nil => simp [hfirst] at hmem
      | cons d ready =>
          have hincreasing := h.increasing
          rw [hfirst] at hmem hincreasing
          -- the least ready item is the first one of the waiting list
          have hdc : d = c := by
            obtain ⟨hd, hdReady⟩ := (h.ready d).1 (by simp [hfirst])
            rcases hc.le hsorted hd hdReady with rfl | hlt
            · rfl
            · rcases List.mem_cons.1 hmem with rfl | hmem
              · rfl
              · exact absurd ((List.pairwise_cons.1 hincreasing).1 c hmem) (lt_asymm hlt)
          subst hdc
          have hnodup : waiting.Nodup := hsorted.imp (fun h => ne_of_lt h)
          obtain ⟨next, hnext, hcounts⟩ := h.next hneeds hnodup hfirst
          rw [place?_of_cons hfirst hnext, hc.placed,
            ih hcounts (hsorted.sublist List.erase_sublist)]
          rfl

end Tally

/-- Counting never fails, and it places what `placeReady` places. -/
theorem placeCounting?_eq {needs : Fin n → List (Fin n)} (hneeds : ∀ x, (needs x).Nodup) :
    placeCounting? needs = some (placeReady needs (List.finRange n)).1 := by
  simp only [placeCounting?, Fin.getElem_fin, Vector.getElem_ofFn, Fin.eta]
  exact (Tally.start_counts needs).place? hneeds (List.pairwise_lt_finRange n)

end Order
end TagSchema
