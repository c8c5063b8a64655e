import Mathlib.Data.Fintype.EquivFin
import Mathlib.Data.List.Nodup
import Mathlib.Logic.Relation

/-!
# Precedence and needs

An order of items is a list; one item precedes another when it stands somewhere before it. What an
item needs is given by a list for each item, and a path of needs leads from an item to something
that it needs directly or through others.

Main results:

- `Precedes.trans` and `Precedes.asymm`: without repetitions, precedence is a strict order.
- `precedes_cons_iff` and `precedes_append_iff`: precedence in a list that is put together.
- `freeStep_wellFounded`: where no cycle can be reached, needs can be inducted over.
-/

namespace TagSchema
namespace Order

variable {α : Type}

/-! ## Precedence -/

/-- An item stands somewhere before another one. -/
def Precedes (order : List α) (a b : α) : Prop :=
  [a, b].Sublist order

instance [DecidableEq α] (order : List α) (a b : α) : Decidable (Precedes order a b) :=
  inferInstanceAs (Decidable ([a, b].Sublist order))

theorem Precedes.mem_left {order : List α} {a b : α} (h : Precedes order a b) : a ∈ order :=
  h.subset (by simp)

theorem Precedes.mem_right {order : List α} {a b : α} (h : Precedes order a b) : b ∈ order :=
  h.subset (by simp)

/-- Precedence in a list with a first item. -/
theorem precedes_cons_iff {c a b : α} {order : List α} :
    Precedes (c :: order) a b ↔ a = c ∧ b ∈ order ∨ Precedes order a b := by
  unfold Precedes
  constructor
  · intro h
    cases h with
    | cons _ h => exact Or.inr h
    | cons_cons _ h => exact Or.inl ⟨rfl, List.singleton_sublist.1 h⟩
  · rintro (⟨rfl, hb⟩ | h)
    · exact (List.singleton_sublist.2 hb).cons_cons a
    · exact h.cons c

/-- Precedence in two lists, one behind the other. -/
theorem precedes_append_iff {first second : List α} {a b : α} :
    Precedes (first ++ second) a b ↔
      Precedes first a b ∨ a ∈ first ∧ b ∈ second ∨ Precedes second a b := by
  induction first with
  | nil => simp [Precedes]
  | cons c first ih =>
      rw [List.cons_append, precedes_cons_iff, precedes_cons_iff, ih, List.mem_append,
        List.mem_cons, and_or_left, or_and_right]
      simp only [or_assoc, or_left_comm]

theorem precedes_reverse_iff {order : List α} {a b : α} :
    Precedes order.reverse a b ↔ Precedes order b a := by
  unfold Precedes
  rw [← List.reverse_sublist, List.reverse_reverse]
  rfl

/-- Taking another item out of the order keeps precedence. -/
theorem Precedes.erase [DecidableEq α] {order : List α} {a b c : α} (h : Precedes order a b)
    (ha : a ≠ c) (hb : b ≠ c) : Precedes (order.erase c) a b := by
  have hkept : [a, b].erase c = [a, b] := List.erase_of_not_mem (by simp [ha.symm, hb.symm])
  unfold Precedes
  rw [← hkept]
  exact List.Sublist.erase c h

theorem Precedes.ne {order : List α} (hnodup : order.Nodup) {a b : α}
    (h : Precedes order a b) : a ≠ b := by
  rintro rfl
  exact List.nodup_iff_sublist.1 hnodup a h

/-- What comes before an earlier item comes before a later one. -/
theorem Precedes.trans {order : List α} (hnodup : order.Nodup) {a b c : α}
    (hab : Precedes order a b) (hbc : Precedes order b c) : Precedes order a c := by
  induction order with
  | nil => simp [Precedes] at hab
  | cons d order ih =>
      rw [List.nodup_cons] at hnodup
      rw [precedes_cons_iff] at hab hbc ⊢
      rcases hbc with ⟨rfl, _⟩ | hbc
      · -- the middle item stands first, so nothing precedes it
        rcases hab with ⟨_, hb⟩ | hab
        · exact absurd hb hnodup.1
        · exact absurd hab.mem_right hnodup.1
      · rcases hab with ⟨rfl, _⟩ | hab
        · exact Or.inl ⟨rfl, hbc.mem_right⟩
        · exact Or.inr (ih hnodup.2 hab hbc)

/-- Without repetition only one of two items comes first. -/
theorem Precedes.asymm {order : List α} (hnodup : order.Nodup) {a b : α}
    (hab : Precedes order a b) : ¬ Precedes order b a := by
  intro hba
  exact (hab.trans hnodup hba).ne hnodup rfl

/-- In a list without repetitions nothing precedes the first item. -/
theorem not_precedes_head {order : List α} {a b : α} (hnodup : (b :: order).Nodup) :
    ¬ Precedes (b :: order) a b := by
  intro h
  rw [List.nodup_cons] at hnodup
  rcases precedes_cons_iff.1 h with ⟨_, hb⟩ | h
  · exact hnodup.1 hb
  · exact hnodup.1 h.mem_right

/-- The first item with a property precedes every other item with it. -/
theorem precedes_of_find? {order : List α} {p : α → Bool} {a b : α}
    (hfirst : order.find? p = some a) (hb : b ∈ order) (hp : p b = true) :
    a = b ∨ Precedes order a b := by
  obtain ⟨hpa, before, after, rfl, hbefore⟩ := List.find?_eq_some_iff_append.1 hfirst
  rcases List.mem_append.1 hb with hb | hb
  · have hfalse := hbefore b hb
    simp [hp] at hfalse
  · rcases List.mem_cons.1 hb with rfl | hb
    · exact Or.inl rfl
    · right
      rw [precedes_append_iff, precedes_cons_iff]
      exact Or.inr (Or.inr (Or.inl ⟨rfl, hb⟩))

/-! ## Needs -/

/-- An item needs another one directly. -/
def Needs (needs : α → List α) (x y : α) : Prop :=
  y ∈ needs x

/-- An item is the other one, or needs it directly or through others. -/
def Path (needs : α → List α) : α → α → Prop :=
  Relation.ReflTransGen (Needs needs)

/-- An item needs another one directly or through others. -/
def ProperPath (needs : α → List α) : α → α → Prop :=
  Relation.TransGen (Needs needs)

/-- An item lies on a cycle of needs, or needs an item on one. -/
def ReachesCycle (needs : α → List α) (x : α) : Prop :=
  ∃ y, Path needs x y ∧ ProperPath needs y y

/-- What needs an item that leads to a cycle leads there itself. -/
theorem ReachesCycle.of_needs {needs : α → List α} {x y : α} (hxy : Needs needs x y)
    (hy : ReachesCycle needs y) : ReachesCycle needs x := by
  obtain ⟨z, hyz, hz⟩ := hy
  exact ⟨z, hyz.head hxy, hz⟩

theorem ProperPath.reachesCycle {needs : α → List α} {x : α} (h : ProperPath needs x x) :
    ReachesCycle needs x :=
  ⟨x, Relation.ReflTransGen.refl, h⟩

/-- A step that only leads away from items behind which there is no cycle. -/
def FreeStep (needs : α → List α) (y x : α) : Prop :=
  Needs needs x y ∧ ¬ ReachesCycle needs x

/-- Steps that avoid cycles follow needs and start where there is no cycle. -/
theorem FreeStep.trans_properPath {needs : α → List α} {y x : α}
    (h : Relation.TransGen (FreeStep needs) y x) :
    ProperPath needs x y ∧ ¬ ReachesCycle needs x := by
  induction h with
  | single h => exact ⟨Relation.TransGen.single h.1, h.2⟩
  | tail _ hstep ih => exact ⟨ih.1.head hstep.1, hstep.2⟩

/-- Where no cycle can be reached, the needs of finitely many items are well-founded. -/
theorem freeStep_wellFounded [Finite α] (needs : α → List α) :
    WellFounded (FreeStep needs) := by
  have hirrefl : Std.Irrefl (Relation.TransGen (FreeStep needs)) := by
    refine ⟨fun x hx => ?_⟩
    obtain ⟨hcycle, hfree⟩ := FreeStep.trans_properPath hx
    exact hfree hcycle.reachesCycle
  have htrans : IsTrans α (Relation.TransGen (FreeStep needs)) :=
    ⟨fun _ _ _ hab hbc => hab.trans hbc⟩
  have hwf := Finite.wellFounded_of_trans_of_irrefl (Relation.TransGen (FreeStep needs))
  exact Subrelation.wf Relation.TransGen.single hwf

end Order
end TagSchema
