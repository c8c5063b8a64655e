import TagSchema.Catalog.Order
import TagSchema.Proofs.Precedence

/-!
# Depth-first walks

A walk enters an item, walks through what the item needs and then leaves it. At any moment an item
of the walk is fresh, left, or on the path from where the walk started to the item that it is at.
When an item is left, everything behind a need that does not lead back to the item has been left
before: none of it can be on the path, and nothing behind a left item is fresh.

Main results:

- `visit_eq_of_lt`: a walk never gets as deep as its bound allows.
- `Walk.Sound.visit`: what a walk through one item keeps.
- `postOrder_perm`: every item is left exactly once.
- `postOrder_precedes`: all that lies behind a need is left before the item, unless the need leads
  back to it.
-/

namespace TagSchema
namespace Order

variable {α : Type} [DecidableEq α] {needs : α → List α}

/-! ## Single visits -/

/-- A visit of an item that was seen changes nothing. -/
theorem visit_of_not_fresh {depth : Nat} {walk : Walk α} {x : α} (hx : x ∉ walk.fresh) :
    visit needs (depth + 1) walk x = walk := by
  simp [visit, hx]

/-- A visit of a fresh item visits what it needs and then leaves it. -/
theorem visit_of_fresh {depth : Nat} {walk : Walk α} {x : α} (hx : x ∈ walk.fresh) :
    visit needs (depth + 1) walk x =
      let inner := (needs x).foldl (visit needs depth) { walk with fresh := walk.fresh.erase x }
      { inner with left := x :: inner.left } := by
  simp [visit, hx]

omit [DecidableEq α] in
/-- If no step makes an item fresh again, neither do several steps. -/
theorem foldl_fresh_sublist {step : Walk α → α → Walk α}
    (hstep : ∀ walk x, (step walk x).fresh.Sublist walk.fresh) (items : List α) (walk : Walk α) :
    (items.foldl step walk).fresh.Sublist walk.fresh := by
  induction items generalizing walk with
  | nil => exact List.Sublist.refl _
  | cons y items ih => exact (ih (step walk y)).trans (hstep walk y)

/-- No item becomes fresh again. -/
theorem visit_fresh_sublist (needs : α → List α) (depth : Nat) (walk : Walk α) (x : α) :
    (visit needs depth walk x).fresh.Sublist walk.fresh := by
  induction depth generalizing walk x with
  | zero => exact List.Sublist.refl _
  | succ depth ih =>
      by_cases hx : x ∈ walk.fresh
      · rw [visit_of_fresh hx]
        exact (foldl_fresh_sublist ih _ _).trans List.erase_sublist
      · rw [visit_of_not_fresh hx]

/-- Visits only take from the fresh items. -/
theorem foldl_visit_fresh_sublist (needs : α → List α) (depth : Nat) (items : List α)
    (walk : Walk α) : (items.foldl (visit needs depth) walk).fresh.Sublist walk.fresh :=
  foldl_fresh_sublist (visit_fresh_sublist needs depth) items walk

theorem length_erase_lt {items : List α} {x : α} {bound : Nat} (hx : x ∈ items)
    (hbound : items.length < bound + 1) : (items.erase x).length < bound := by
  have hpositive := List.length_pos_of_mem hx
  rw [List.length_erase_of_mem hx]
  omega

/-- Bounds that are as good as each other for single visits are so for walks over some items. -/
theorem foldl_visit_congr {depth other : Nat}
    (hvisit : ∀ (walk : Walk α) (x : α), walk.fresh.length < depth → walk.fresh.length < other →
      visit needs depth walk x = visit needs other walk x)
    {items : List α} {walk : Walk α} (hdepth : walk.fresh.length < depth)
    (hother : walk.fresh.length < other) :
    items.foldl (visit needs depth) walk = items.foldl (visit needs other) walk := by
  induction items generalizing walk with
  | nil => rfl
  | cons y items ih =>
      have hshorter := (visit_fresh_sublist needs other walk y).length_le
      rw [List.foldl_cons, List.foldl_cons, hvisit walk y hdepth hother]
      exact ih (by omega) (by omega)

/-- A walk that may go deeper than there are fresh items is the same for every such bound. -/
theorem visit_eq_of_lt {depth other : Nat} {walk : Walk α} {x : α}
    (hdepth : walk.fresh.length < depth) (hother : walk.fresh.length < other) :
    visit needs depth walk x = visit needs other walk x := by
  induction depth generalizing other walk x with
  | zero => omega
  | succ depth ih =>
      cases other with
      | zero => omega
      | succ other =>
          by_cases hx : x ∈ walk.fresh
          · rw [visit_of_fresh hx, visit_of_fresh hx,
              foldl_visit_congr (fun _ _ => ih) (length_erase_lt hx hdepth)
                (length_erase_lt hx hother)]
          · rw [visit_of_not_fresh hx, visit_of_not_fresh hx]

/-! ## What a walk keeps -/

/-- A walk over some items that is at the end of a path: every item is fresh, left or on the path;
nothing that a left item needs is fresh; and when an item was left, all that lies behind a need
which does not lead back to it had been left. -/
structure Walk.Sound (needs : α → List α) (items path : List α) (walk : Walk α) : Prop where
  parts : (walk.fresh ++ walk.left ++ path).Perm items
  closed : ∀ x ∈ walk.left, ∀ y, Needs needs x y → y ∉ walk.fresh
  settled : ∀ later x earlier, walk.left = later ++ x :: earlier → ∀ y, Needs needs x y →
    ¬ Path needs y x → ∀ z ∈ items, Path needs y z → z ∈ earlier

namespace Walk.Sound

variable {items path : List α} {walk : Walk α} {x : α}

omit [DecidableEq α] in
/-- A walk that has not begun is sound. -/
theorem start (needs : α → List α) (items : List α) : Sound needs items [] ⟨items, []⟩ where
  parts := by simp
  closed := by simp
  settled := by simp

/-- An item that is entered moves from the fresh ones to the path. -/
theorem enter (h : Sound needs items path walk) (hx : x ∈ walk.fresh) :
    Sound needs items (x :: path) { walk with fresh := walk.fresh.erase x } where
  parts := by
    have hfresh := (List.perm_cons_erase hx).append_right (walk.left ++ path)
    refine List.Perm.trans ?_ h.parts
    rw [List.append_assoc, List.append_assoc]
    refine List.Perm.trans ?_ hfresh.symm
    rw [List.cons_append]
    exact (List.Perm.append_left _ List.perm_middle).trans List.perm_middle
  closed := by
    intro y hy z hz hmem
    exact h.closed y hy z hz (List.mem_of_mem_erase hmem)
  settled := h.settled

omit [DecidableEq α] in
/-- Every item is fresh, left or on the path. -/
theorem mem_items (h : Sound needs items path walk) {z : α} :
    z ∈ items ↔ z ∈ walk.fresh ∨ z ∈ walk.left ∨ z ∈ path := by
  rw [← h.parts.mem_iff, List.mem_append, List.mem_append, or_assoc]

omit [DecidableEq α] in
/-- When all needs of an item were walked through, everything behind a need that does not lead back
to the item has been left. -/
theorem left_of_path (h : Sound needs items (x :: path) walk)
    (houtside : ∀ z, z ∉ items → ∀ y, Needs needs z y → y ∉ items)
    (hpath : ∀ p ∈ path, Path needs p x) (hneeds : ∀ y, Needs needs x y → y ∉ walk.fresh)
    {y : α} (hy : Needs needs x y) (hback : ¬ Path needs y x) {z : α} (hz : Path needs y z) :
    z ∈ walk.left ∨ z ∉ items := by
  -- nothing behind the need is on the path, since all of the path leads to the item
  have hoff : ∀ z, Path needs y z → z ∉ x :: path := by
    intro z hz hmem
    rcases List.mem_cons.1 hmem with rfl | hmem
    · exact hback hz
    · exact hback (hz.trans (hpath z hmem))
  have hsort : ∀ z, Path needs y z → z ∉ walk.fresh → z ∈ walk.left ∨ z ∉ items := by
    intro z hz hfresh
    by_cases hitem : z ∈ items
    · exact Or.inl ((h.mem_items.1 hitem).resolve_left hfresh |>.resolve_right (hoff z hz))
    · exact Or.inr hitem
  induction hz with
  | refl => exact hsort y Relation.ReflTransGen.refl (hneeds y hy)
  | tail hyz hstep ih =>
      rcases ih with hleft | houter
      · exact hsort _ (hyz.tail hstep) (h.closed _ hleft _ hstep)
      · exact Or.inr (houtside _ houter _ hstep)

omit [DecidableEq α] in
/-- An item whose needs were all walked through can be left. -/
theorem leave (h : Sound needs items (x :: path) walk)
    (houtside : ∀ z, z ∉ items → ∀ y, Needs needs z y → y ∉ items)
    (hpath : ∀ p ∈ path, Path needs p x) (hneeds : ∀ y, Needs needs x y → y ∉ walk.fresh) :
    Sound needs items path { walk with left := x :: walk.left } where
  parts := by
    refine List.Perm.trans ?_ h.parts
    rw [List.append_assoc, List.append_assoc, List.cons_append]
    exact List.Perm.append_left _ List.perm_middle.symm
  closed := by
    intro y hy z hz
    rcases List.mem_cons.1 hy with rfl | hy
    · exact hneeds z hz
    · exact h.closed y hy z hz
  settled := by
    intro later z earlier hsplit y hy hback w hw hyw
    cases later with
    | nil =>
        rw [List.nil_append, List.cons.injEq] at hsplit
        obtain ⟨rfl, rfl⟩ := hsplit
        rcases h.left_of_path houtside hpath hneeds hy hback hyw with hleft | houter
        · exact hleft
        · exact absurd hw houter
    | cons first later =>
        rw [List.cons_append, List.cons.injEq] at hsplit
        exact h.settled later z earlier hsplit.2 y hy hback w hw hyw

/-- A walk over some items that the end of the path leads to keeps a walk sound, if single visits
do. -/
theorem foldl_visit {depth : Nat}
    (hvisit : ∀ (walk : Walk α) (y : α), Sound needs items path walk → walk.fresh.length < depth →
      (∀ p ∈ path, Path needs p y) → Sound needs items path (Order.visit needs depth walk y) ∧
        y ∉ (Order.visit needs depth walk y).fresh)
    {others : List α} (h : Sound needs items path walk) (hdepth : walk.fresh.length < depth)
    (hpath : ∀ y ∈ others, ∀ p ∈ path, Path needs p y) :
    Sound needs items path (others.foldl (Order.visit needs depth) walk) ∧
      ∀ y ∈ others, y ∉ (others.foldl (Order.visit needs depth) walk).fresh := by
  induction others generalizing walk with
  | nil => exact ⟨h, by simp⟩
  | cons y others ih =>
      obtain ⟨hfirst, hy⟩ := hvisit walk y h hdepth (hpath y List.mem_cons_self)
      have hshorter := (visit_fresh_sublist needs depth walk y).length_le
      obtain ⟨hrest, hothers⟩ := ih hfirst (by omega)
        (fun z hz => hpath z (List.mem_cons_of_mem y hz))
      refine ⟨hrest, fun z hz => ?_⟩
      rcases List.mem_cons.1 hz with rfl | hz
      · exact fun hmem => hy ((foldl_visit_fresh_sublist needs depth others _).subset hmem)
      · exact hothers z hz

/-- A walk through an item that the path leads to keeps a walk sound, and the item is entered. -/
theorem visit (hitems : items.Nodup)
    (houtside : ∀ z, z ∉ items → ∀ y, Needs needs z y → y ∉ items) {depth : Nat}
    (h : Sound needs items path walk) (hdepth : walk.fresh.length < depth)
    (hpath : ∀ p ∈ path, Path needs p x) :
    Sound needs items path (Order.visit needs depth walk x) ∧
      x ∉ (Order.visit needs depth walk x).fresh := by
  induction depth generalizing walk x path with
  | zero => omega
  | succ depth ih =>
      by_cases hx : x ∈ walk.fresh
      · have hfresh : walk.fresh.Nodup := by
          have hparts := h.parts.nodup_iff.2 hitems
          rw [List.append_assoc] at hparts
          exact (List.nodup_append.1 hparts).1
        have hpathNeeds : ∀ y ∈ needs x, ∀ p ∈ x :: path, Path needs p y := by
          intro y hy p hp
          rcases List.mem_cons.1 hp with rfl | hp
          · exact Relation.ReflTransGen.single hy
          · exact (hpath p hp).tail hy
        obtain ⟨hinner, hneeds⟩ := foldl_visit (fun _ _ => ih) (h.enter hx)
          (length_erase_lt hx hdepth) hpathNeeds
        rw [visit_of_fresh hx]
        refine ⟨hinner.leave houtside hpath hneeds, fun hmem => ?_⟩
        exact hfresh.not_mem_erase ((foldl_visit_fresh_sublist needs depth _ _).subset hmem)
      · rw [visit_of_not_fresh hx]
        exact ⟨h, hx⟩

end Walk.Sound

/-! ## Post-order -/

/-- The walk over all items, at its end. -/
theorem postOrder_sound {items : List α} (hitems : items.Nodup)
    (houtside : ∀ z, z ∉ items → ∀ y, Needs needs z y → y ∉ items) :
    ∃ walk : Walk α, postOrder needs items = walk.left.reverse ∧ walk.fresh = [] ∧
      walk.Sound needs items [] := by
  have hpath : ∀ y ∈ items, ∀ p ∈ ([] : List α), Path needs p y := by simp
  obtain ⟨hsound, hentered⟩ := Walk.Sound.foldl_visit
    (fun _ _ => Walk.Sound.visit hitems houtside) (Walk.Sound.start needs items)
    (Nat.lt_succ_self items.length) hpath
  refine ⟨_, rfl, ?_, hsound⟩
  rw [List.eq_nil_iff_forall_not_mem]
  intro x hx
  exact hentered x (hsound.mem_items.2 (Or.inl hx)) hx

/-- A walk over all items leaves each of them once. -/
theorem postOrder_perm {items : List α} (hitems : items.Nodup)
    (houtside : ∀ z, z ∉ items → ∀ y, Needs needs z y → y ∉ items) :
    (postOrder needs items).Perm items := by
  obtain ⟨walk, hwalk, hfresh, hsound⟩ := postOrder_sound hitems houtside
  have hparts := hsound.parts
  rw [hfresh, List.nil_append, List.append_nil] at hparts
  rw [hwalk]
  exact (List.reverse_perm _).trans hparts

/-- Everything behind a need that does not lead back to the item is left before the item. -/
theorem postOrder_precedes {items : List α} (hitems : items.Nodup)
    (houtside : ∀ z, z ∉ items → ∀ y, Needs needs z y → y ∉ items) {x y z : α} (hx : x ∈ items)
    (hy : Needs needs x y) (hback : ¬ Path needs y x) (hz : z ∈ items) (hyz : Path needs y z) :
    Precedes (postOrder needs items) z x := by
  have hmem := (postOrder_perm hitems houtside).mem_iff.2 hx
  obtain ⟨walk, hwalk, _, hsound⟩ := postOrder_sound hitems houtside
  rw [hwalk, List.mem_reverse] at hmem
  obtain ⟨later, earlier, hsplit⟩ := List.append_of_mem hmem
  have hleft := hsound.settled later x earlier hsplit y hy hback z hz hyz
  rw [hwalk, precedes_reverse_iff, hsplit, precedes_append_iff, precedes_cons_iff]
  exact Or.inr (Or.inr (Or.inl ⟨rfl, hleft⟩))

/-- The walk never gets as deep as its bound allows: any greater bound gives the same order. -/
theorem postOrder_eq_of_lt {items : List α} {depth : Nat} (hdepth : items.length < depth) :
    (items.foldl (visit needs depth) ⟨items, []⟩).left.reverse = postOrder needs items := by
  unfold postOrder
  rw [foldl_visit_congr (fun _ _ => visit_eq_of_lt) hdepth (Nat.lt_succ_self items.length)]

end Order
end TagSchema
