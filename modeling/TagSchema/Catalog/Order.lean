import TagSchema.Catalog.Basic

/-!
# Dependency order

A struct depends on its parent and on the structs that its fields embed or reflect. Structs are
placed after their dependencies, ties being broken by declaration order: the open dependencies of
each struct are counted, and a struct is ready when its count is zero. Structs on a cycle of
dependencies, or behind one, come last: in the order in which a depth-first walk leaves them, moved
so that parents still come first.
-/

namespace TagSchema

namespace Order

/-! ## Counting down -/

/-- Inserts an item into increasing items, once. -/
def insertItem {n : Nat} (x : Fin n) : List (Fin n) → List (Fin n)
  | [] => [x]
  | first :: rest =>
    if x < first then x :: first :: rest
    else if x = first then first :: rest
    else first :: insertItem x rest

theorem length_insertItem_le {n : Nat} (x : Fin n) (items : List (Fin n)) :
    (insertItem x items).length ≤ items.length + 1 := by
  induction items with
  | nil => simp [insertItem]
  | cons first rest ih =>
      simp only [insertItem]
      split
      · simp
      · split <;> simp [ih]

/-- How many needs of each item are open, and the items that wait for nothing, in increasing order. -/
structure Tally (n : Nat) where
  counts : Vector Nat n
  ready : List (Fin n)

namespace Tally

variable {n : Nat}

/-- The tally before anything is placed. -/
def start (needs : Fin n → List (Fin n)) : Tally n where
  counts := Vector.ofFn fun x => (needs x).length
  ready := (List.finRange n).filter fun x => (needs x).isEmpty

/-- The number of open needs of an item. -/
def count (tally : Tally n) (x : Fin n) : Nat :=
  tally.counts[x.val]

/-- Counts down for an item, which is ready when its count comes to zero. A count that is zero cannot
go down. -/
def countDown? (tally : Tally n) (x : Fin n) : Option (Tally n) :=
  match tally.count x with
  | 0 => none
  | 1 => some ⟨tally.counts.set x 0, insertItem x tally.ready⟩
  | count + 2 => some { tally with counts := tally.counts.set x (count + 1) }

/-- The number of items that can still be placed: those that wait and those that are ready. -/
def remaining (tally : Tally n) : Nat :=
  tally.counts.countP (0 < ·) + tally.ready.length

theorem remaining_countDown?_le {tally next : Tally n} {x : Fin n}
    (h : tally.countDown? x = some next) : next.remaining ≤ tally.remaining := by
  have hlength := length_insertItem_le x tally.ready
  have hpositive (hx : 0 < tally.counts[x.val]) : 0 < tally.counts.countP (0 < ·) :=
    Vector.countP_pos_iff.2 ⟨tally.counts[x.val], Vector.getElem_mem _, by simpa using hx⟩
  unfold countDown? count at h
  split at h <;> rename_i hcount
  · contradiction
  · cases h
    have hwaits := hpositive (by omega)
    simp only [remaining, Vector.countP_set, hcount, Nat.zero_lt_one, Nat.lt_irrefl, decide_true,
      decide_false, if_true, Bool.false_eq_true, if_false]
    omega
  · cases h
    have hwaits := hpositive (by omega)
    simp only [remaining, Vector.countP_set, hcount, Nat.zero_lt_succ, decide_true, if_true]
    omega

theorem remaining_foldlM_countDown?_le {items : List (Fin n)} {tally next : Tally n}
    (h : items.foldlM countDown? tally = some next) : next.remaining ≤ tally.remaining := by
  induction items generalizing tally with
  | nil =>
      cases h
      exact Nat.le_refl _
  | cons x items ih =>
      rw [List.foldlM_cons] at h
      obtain ⟨middle, hfirst, hrest⟩ := Option.bind_eq_some_iff.1 h
      exact Nat.le_trans (ih hrest) (remaining_countDown?_le hfirst)

/-- Places the items that are ready, always the least one, and counts down for the items that need
them. There is no outcome when a count would go below zero. -/
def place? (dependents : Fin n → List (Fin n)) (tally : Tally n) : Option (List (Fin n)) :=
  match _first : tally.ready with
  | [] => some []
  | x :: ready =>
    match _counted : (dependents x).foldlM countDown? { tally with ready } with
    | none => none
    | some next => (place? dependents next).map (x :: ·)
termination_by tally.remaining
decreasing_by
  have notMore := remaining_foldlM_countDown?_le _counted
  simp only [remaining, _first, List.length_cons] at notMore ⊢
  omega

end Tally

/-- The items that need an item, in increasing order. -/
def dependents {n : Nat} (needs : Fin n → List (Fin n)) (x : Fin n) : List (Fin n) :=
  (List.finRange n).filter fun y => (needs y).contains x

/-- The items that can be placed after all that they need, as the counts of open needs tell. -/
def placeCounting? {n : Nat} (needs : Fin n → List (Fin n)) : Option (List (Fin n)) :=
  let table := Vector.ofFn (dependents needs)
  (Tally.start needs).place? fun x => table[x]

/-! ## Placing in turn -/

section Placing

variable {α : Type} [DecidableEq α]

/-- Places items one by one, always the first one of the list that waits for nothing in the list.
Gives the items placed and the items that are left. -/
def placeReady (needs : α → List α) (waiting : List α) : List α × List α :=
  match _found : waiting.find? fun x => (needs x).all (!waiting.contains ·) with
  | none => ([], waiting)
  | some x =>
    let (placed, rest) := placeReady needs (waiting.erase x)
    (x :: placed, rest)
termination_by waiting.length
decreasing_by
  have member := List.mem_of_find?_eq_some _found
  have shorter := List.length_erase_of_mem member
  have positive := List.length_pos_of_mem member
  omega

/-! ## Depth-first walks -/

/-- A depth-first walk: the items not entered yet, and the items left so far, the last one first. -/
structure Walk (α : Type) where
  fresh : List α
  left : List α

/-- Walks through an item and what it needs, as deep as `depth`, unless it was entered before. -/
def visit (needs : α → List α) : Nat → Walk α → α → Walk α
  | 0, walk, _ => walk
  | depth + 1, walk, x =>
    if walk.fresh.contains x then
      let entered : Walk α := { walk with fresh := walk.fresh.erase x }
      let inner := (needs x).foldl (visit needs depth) entered
      { inner with left := x :: inner.left }
    else
      walk

/-- The items in the order in which a depth-first walk leaves them. -/
def postOrder (needs : α → List α) (items : List α) : List α :=
  (items.foldl (visit needs (items.length + 1)) ⟨items, []⟩).left.reverse

end Placing

end Order

namespace Tables

variable (t : Tables)

/-- The struct name that a field embeds or reflects. -/
def mentioned? (field : FieldDef) : Option String :=
  match field.type with
  | .reflexive => field.target
  | .named tag => some tag
  | _ => none

/-- The structs that a struct depends on, in declaration order, itself left out. -/
def dependencies (id : t.StructId) : List t.StructId :=
  let mentions := (t.struct id).fields.filterMap fun field => (mentioned? field).bind t.structId?
  let needed := (t.parent? id).toList ++ mentions
  t.structIds.filter fun other => other ≠ id && needed.contains other

/-- All structs in dependency order. -/
def dependencyOrder : List t.StructId :=
  let table := Vector.ofFn t.dependencies
  let needs (id : t.StructId) : List t.StructId := table[id]
  let placed := (Order.placeCounting? needs).getD []
  let rest := t.structIds.filter (!placed.contains ·)
  let walk := Order.postOrder needs rest
  placed ++ (Order.placeReady (fun id => (t.parent? id).toList) walk).1

end Tables
end TagSchema
