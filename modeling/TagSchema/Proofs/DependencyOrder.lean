import TagSchema.Proofs.Ancestry
import TagSchema.Proofs.Countdown
import TagSchema.Proofs.DepthFirst
import TagSchema.Proofs.Naming

/-!
# The order of structs

The dependency order of a catalog has two parts. The first part holds the structs that can be placed
after all of their dependencies, the least one first. The second part holds the rest: a depth-first
walk gives an order in which dependencies come first wherever they do not lead back, and placing
parents first keeps that, since everything that a struct has to wait for lies behind it as well.

Main results:

- `Catalog.dependencyOrder_perm`: every struct comes exactly once.
- `Catalog.dependencyOrder_precedes`: all that lies behind a dependency comes before the struct,
  unless the dependency leads back to it.
- `Catalog.dependencyOrder_follows_dependencies`: ancestors always come first, and so does every
  struct that a field of a struct or of its ancestors mentions, except around cycles.
- `Catalog.dependencyOrder_least_first`: the first part is the least arrangement of the structs
  behind which there is no cycle.
-/

namespace TagSchema

open TagSchema.Order

namespace Tables

variable (t : Tables)

/-! ## Dependencies -/

/-- A field of a struct embeds another struct by name or reflects it. -/
def Mentions (s other : t.StructId) : Prop :=
  ∃ field ∈ (t.struct s).fields, field.type = .named (t.struct other).name ∨
    field.type = .reflexive ∧ field.target = some (t.struct other).name

/-- What a struct inherits from, as a list. -/
def parents (s : t.StructId) : List t.StructId :=
  (t.parent? s).toList

variable {t}

/-- The parents that are collected for a struct are the structs that it inherits from. -/
theorem needs_parents_iff {s other : t.StructId} :
    Needs t.parents s other ↔ t.Inherits s other := by
  simp [Needs, parents, Inherits]

/-- A struct depends on another one that it inherits from or that one of its fields mentions. -/
theorem mem_dependencies_iff {s other : t.StructId} :
    other ∈ t.dependencies s ↔ other ≠ s ∧ (t.Inherits s other ∨
      ∃ field ∈ (t.struct s).fields, (mentioned? field).bind t.structId? = some other) := by
  simp [dependencies, structIds, Inherits]

theorem dependencies_nodup (s : t.StructId) : (t.dependencies s).Nodup :=
  (List.nodup_finRange _).filter _

/-- The name that a field mentions. -/
theorem mentioned?_eq_some_iff {field : FieldDef} {name : String} :
    mentioned? field = some name ↔
      field.type = .named name ∨ field.type = .reflexive ∧ field.target = some name := by
  unfold mentioned?
  split <;> simp_all

end Tables

namespace Catalog

variable {c : Catalog}

/-- A struct that is mentioned is a dependency. -/
theorem mem_dependencies_of_mentions {s other : c.StructId} (h : c.Mentions s other)
    (hne : other ≠ s) : other ∈ c.dependencies s := by
  obtain ⟨field, hfield, hmentions⟩ := h
  refine Tables.mem_dependencies_iff.2 ⟨hne, Or.inr ⟨field, hfield, ?_⟩⟩
  rw [Tables.mentioned?_eq_some_iff.2 hmentions]
  exact c.structId?_eq_some_iff.2 rfl

/-- A parent is a dependency. -/
theorem mem_dependencies_of_inherits {s parent : c.StructId} (h : c.Inherits s parent) :
    parent ∈ c.dependencies s := by
  refine Tables.mem_dependencies_iff.2 ⟨?_, Or.inl h⟩
  rintro rfl
  exact c.not_ancestor_self _ (Relation.TransGen.single h)

/-- A path through parents is a path through dependencies. -/
theorem path_of_parents_path {s other : c.StructId} (h : Path c.parents s other) :
    Path c.dependencies s other :=
  Relation.ReflTransGen.mono
    (fun _ _ hneeds => mem_dependencies_of_inherits (Tables.needs_parents_iff.1 hneeds)) _ _ h

/-- No struct of a catalog is its own ancestor. -/
theorem parents_acyclic (s : c.StructId) : ¬ ProperPath c.parents s s := by
  intro hcycle
  exact c.not_ancestor_self s
    (Relation.TransGen.mono (fun _ _ => Tables.needs_parents_iff.1) _ _ hcycle)

/-! ## The two parts -/

variable (c)

/-- The structs that are placed after all of their dependencies. -/
def firstPart : List c.StructId :=
  (placeReady c.dependencies c.structIds).1

/-- The structs that are left, in the order of a depth-first walk. -/
def leftoverWalk : List c.StructId :=
  postOrder c.dependencies (c.structIds.filter (!c.firstPart.contains ·))

/-- The structs that are left, parents first. -/
def lastPart : List c.StructId :=
  (placeReady c.parents c.leftoverWalk).1

/-- Counting open dependencies succeeds and places the first part. -/
theorem placeCounting?_dependencies : placeCounting? c.dependencies = some c.firstPart :=
  placeCounting?_eq Tables.dependencies_nodup

/-- The order is the first part and then the last one. -/
theorem dependencyOrder_eq : c.dependencyOrder = c.firstPart ++ c.lastPart := by
  simp only [Tables.dependencyOrder, Fin.getElem_fin, Vector.getElem_ofFn, Fin.eta,
    placeCounting?_dependencies, Option.getD_some]
  rfl

variable {c}

theorem mem_structIds (s : c.StructId) : s ∈ c.structIds :=
  List.mem_finRange s

theorem structIds_nodup : c.structIds.Nodup :=
  List.nodup_finRange _

/-- The first part has the structs behind which there is no cycle. -/
theorem mem_firstPart_iff {s : c.StructId} : s ∈ c.firstPart ↔ ¬ ReachesCycle c.dependencies s :=
  mem_placeReady_fst_iff structIds_nodup mem_structIds

theorem firstPart_nodup : c.firstPart.Nodup :=
  (List.nodup_append.1 (placeReady_nodup c.dependencies structIds_nodup)).1

/-- What a struct of the first part depends on, directly or not, comes before it. -/
theorem firstPart_precedes {s other : c.StructId} (hs : s ∈ c.firstPart)
    (hpath : ProperPath c.dependencies s other) : Precedes c.firstPart other s :=
  placeReady_precedes_of_properPath structIds_nodup mem_structIds hs hpath

/-- The structs that are left. -/
theorem mem_leftovers_iff {s : c.StructId} :
    s ∈ c.structIds.filter (!c.firstPart.contains ·) ↔ s ∉ c.firstPart := by
  simp [mem_structIds]

theorem leftovers_nodup : (c.structIds.filter (!c.firstPart.contains ·)).Nodup :=
  structIds_nodup.filter _

/-- What a placed struct depends on is placed, so it is not left. -/
theorem leftovers_closed (s : c.StructId) (hs : s ∉ c.structIds.filter (!c.firstPart.contains ·))
    (other : c.StructId) (hneeds : Needs c.dependencies s other) :
    other ∉ c.structIds.filter (!c.firstPart.contains ·) := by
  rw [mem_leftovers_iff, not_not] at hs ⊢
  exact (firstPart_precedes hs (Relation.TransGen.single hneeds)).mem_left

/-- The walk through the rest takes each struct of it once. -/
theorem leftoverWalk_perm :
    c.leftoverWalk.Perm (c.structIds.filter (!c.firstPart.contains ·)) :=
  postOrder_perm leftovers_nodup leftovers_closed

theorem leftoverWalk_nodup : c.leftoverWalk.Nodup :=
  leftoverWalk_perm.nodup_iff.2 leftovers_nodup

/-- The walk takes exactly what the first part leaves. -/
theorem mem_leftoverWalk_iff {s : c.StructId} : s ∈ c.leftoverWalk ↔ s ∉ c.firstPart := by
  rw [leftoverWalk_perm.mem_iff, mem_leftovers_iff]

/-- Moving parents to the front keeps what the walk has taken. -/
theorem lastPart_perm : c.lastPart.Perm c.leftoverWalk :=
  placeReady_fst_perm parents_acyclic c.leftoverWalk

/-- The last part has the structs on a cycle or behind one. -/
theorem mem_lastPart_iff {s : c.StructId} : s ∈ c.lastPart ↔ ReachesCycle c.dependencies s := by
  rw [lastPart_perm.mem_iff, mem_leftoverWalk_iff, mem_firstPart_iff, not_not]

/-- Every struct comes exactly once. -/
theorem dependencyOrder_perm : c.dependencyOrder.Perm c.structIds := by
  rw [List.perm_ext_iff_of_nodup _ structIds_nodup]
  · intro s
    simp only [dependencyOrder_eq, List.mem_append, mem_firstPart_iff, mem_lastPart_iff,
      mem_structIds, iff_true]
    exact (em _).symm
  · rw [dependencyOrder_eq, List.nodup_append]
    refine ⟨firstPart_nodup, lastPart_perm.nodup_iff.2 leftoverWalk_nodup, ?_⟩
    rintro s hs other hother rfl
    rw [lastPart_perm.mem_iff, mem_leftoverWalk_iff] at hother
    exact hother hs

/-- No struct comes twice in the order. -/
theorem dependencyOrder_nodup : c.dependencyOrder.Nodup :=
  dependencyOrder_perm.nodup_iff.2 structIds_nodup

/-! ## Precedence -/

/-- A parent comes before its children, even on a cycle. -/
theorem dependencyOrder_parent_first {s parent : c.StructId} (h : c.Inherits s parent) :
    Precedes c.dependencyOrder parent s := by
  have hneeds : Needs c.dependencies s parent := mem_dependencies_of_inherits h
  rw [dependencyOrder_eq, precedes_append_iff]
  by_cases hs : s ∈ c.firstPart
  · exact Or.inl (firstPart_precedes hs (Relation.TransGen.single hneeds))
  · have hlast : s ∈ c.lastPart := lastPart_perm.mem_iff.2 (mem_leftoverWalk_iff.2 hs)
    by_cases hparent : parent ∈ c.firstPart
    · exact Or.inr (Or.inl ⟨hparent, hlast⟩)
    · exact Or.inr (Or.inr (placeReady_precedes leftoverWalk_nodup hlast
        (Tables.needs_parents_iff.2 h) (mem_leftoverWalk_iff.2 hparent)))

/-- All that lies behind a dependency of a struct comes before the struct, unless the dependency
leads back to it. -/
theorem dependencyOrder_precedes {s dependency other : c.StructId}
    (hneeds : Needs c.dependencies s dependency) (hback : ¬ Path c.dependencies dependency s)
    (hpath : Path c.dependencies dependency other) : Precedes c.dependencyOrder other s := by
  rw [dependencyOrder_eq, precedes_append_iff]
  by_cases hs : s ∈ c.firstPart
  · exact Or.inl (firstPart_precedes hs (Relation.TransGen.head' hneeds hpath))
  · have hwalk : s ∈ c.leftoverWalk := mem_leftoverWalk_iff.2 hs
    by_cases hother : other ∈ c.firstPart
    · exact Or.inr (Or.inl ⟨hother, lastPart_perm.mem_iff.2 hwalk⟩)
    · right
      right
      -- what the other struct has to wait for lies behind the dependency as well
      refine placeReady_keeps parents_acyclic leftoverWalk_nodup (mem_leftoverWalk_iff.2 hother) ?_
      intro z hz hparents
      exact postOrder_precedes leftovers_nodup leftovers_closed (mem_leftovers_iff.2 hs) hneeds
        hback (leftoverWalk_perm.mem_iff.1 hz) (hpath.trans (path_of_parents_path hparents))

/-- Every ancestor comes first. -/
theorem dependencyOrder_ancestor_first {s ancestor : c.StructId} (h : c.Ancestor s ancestor) :
    Precedes c.dependencyOrder ancestor s := by
  induction h with
  | single hparent => exact dependencyOrder_parent_first hparent
  | tail _ hparent ih => exact (dependencyOrder_parent_first hparent).trans dependencyOrder_nodup ih

/-- A struct that a field of an ancestor mentions comes first, unless it depends on the struct. -/
theorem dependencyOrder_mentioned_first {s level other : c.StructId}
    (hlevel : Relation.ReflTransGen c.Inherits s level) (hmentions : c.Mentions level other)
    (hne : other ≠ s) (hback : ¬ Path c.dependencies other s) :
    Precedes c.dependencyOrder other s := by
  have hother : ∀ {x}, Relation.ReflTransGen c.Inherits x level → Path c.dependencies x other := by
    intro x hx
    have hpath : Path c.dependencies x level :=
      Relation.ReflTransGen.mono (fun _ _ => mem_dependencies_of_inherits) _ _ hx
    by_cases heq : other = level
    · rwa [heq]
    · exact hpath.tail (mem_dependencies_of_mentions hmentions heq)
  -- up the lineage: the mentioned struct comes before the parent, or it is on a cycle with it
  induction hlevel using Relation.ReflTransGen.head_induction_on with
  | refl =>
      exact dependencyOrder_precedes (mem_dependencies_of_mentions hmentions hne) hback
        Relation.ReflTransGen.refl
  | head hparent hrest ih =>
      have hfirst := dependencyOrder_parent_first hparent
      rename_i child parent
      by_cases heq : other = parent
      · rwa [heq]
      · by_cases hcycle : Path c.dependencies other parent
        · have hparentBack : ¬ Path c.dependencies parent child := fun h => hback (hcycle.trans h)
          exact dependencyOrder_precedes (mem_dependencies_of_inherits hparent) hparentBack
            (hother hrest)
        · exact (ih heq hcycle).trans dependencyOrder_nodup hfirst

/-- A dependency comes first, unless it depends on the struct in turn. -/
theorem dependencyOrder_dependency_first {s other : c.StructId} (h : other ∈ c.dependencies s)
    (hback : ¬ Path c.dependencies other s) : Precedes c.dependencyOrder other s :=
  dependencyOrder_precedes h hback Relation.ReflTransGen.refl

/-- Dependencies come first wherever they can. Every ancestor comes before the struct, whatever
cycles there are. A struct that a field of the struct or of one of its ancestors mentions comes
before it, unless it depends on the struct in turn. So a dependency comes late only on a cycle, and
without cycles every dependency comes first. -/
theorem dependencyOrder_follows_dependencies (c : Catalog) :
    (∀ s ancestor, c.Ancestor s ancestor → Precedes c.dependencyOrder ancestor s) ∧
    (∀ s level other, level = s ∨ c.Ancestor s level → c.Mentions level other → other ≠ s →
      ¬ ProperPath c.dependencies other s → Precedes c.dependencyOrder other s) ∧
    (∀ s, ∀ other ∈ c.dependencies s, ¬ Precedes c.dependencyOrder other s →
      ProperPath c.dependencies other s) ∧
    ((∀ s, ¬ ProperPath c.dependencies s s) →
      ∀ s, ∀ other ∈ c.dependencies s, Precedes c.dependencyOrder other s) := by
  have hproper : ∀ {s other : c.StructId}, other ≠ s → ¬ ProperPath c.dependencies other s →
      ¬ Path c.dependencies other s := by
    intro s other hne hnot hpath
    rcases Relation.reflTransGen_iff_eq_or_transGen.1 hpath with heq | hpath
    · exact hne heq.symm
    · exact hnot hpath
  have hdependency : ∀ s, ∀ other ∈ c.dependencies s, ¬ Precedes c.dependencyOrder other s →
      ProperPath c.dependencies other s := by
    intro s other hmem hlate
    by_contra hnot
    exact hlate (dependencyOrder_dependency_first hmem
      (hproper (Tables.mem_dependencies_iff.1 hmem).1 hnot))
  refine ⟨fun s ancestor => dependencyOrder_ancestor_first, ?_, hdependency, ?_⟩
  · intro s level other hlevel hmentions hne hback
    refine dependencyOrder_mentioned_first ?_ hmentions hne (hproper hne hback)
    exact Relation.reflTransGen_iff_eq_or_transGen.2 hlevel
  · intro hacyclic s other hmem
    by_contra hlate
    exact hacyclic s (Relation.TransGen.head hmem (hdependency s other hmem hlate))

/-- Two structs that reflect each other, a struct behind them, and three structs without a cycle. -/
def armory : Catalog where
  structs := [
    { name := "Turret", inherits := some "Ping" },
    { name := "Ping",
      fields := [{ memberName := "pong", type := .reflexive, target := some "Pong" }] },
    { name := "Pong",
      fields := [{ memberName := "ping", type := .reflexive, target := some "Ping" }] },
    { name := "Weapon", inherits := some "Item",
      fields := [{ memberName := "triggers", type := .reflexive, target := some "Trigger" }] },
    { name := "Trigger" },
    { name := "Item" }]
  faultless := by decide

/-- The parent of a struct behind a cycle, and what that parent reflects, come before the struct. -/
theorem armory_follows_dependencies :
    ∃ turret ping pong : armory.StructId,
      armory.Ancestor turret ping ∧ Precedes armory.dependencyOrder ping turret ∧
      armory.Mentions ping pong ∧ pong ≠ turret ∧ ¬ ProperPath armory.dependencies pong turret ∧
      Precedes armory.dependencyOrder pong turret := by
  obtain ⟨hancestors, hmentioned, _⟩ := dependencyOrder_follows_dependencies armory
  let turret : armory.StructId := ⟨0, by decide⟩
  let ping : armory.StructId := ⟨1, by decide⟩
  let pong : armory.StructId := ⟨2, by decide⟩
  have hparent : armory.Ancestor turret ping :=
    Relation.TransGen.single (show armory.parent? turret = some ping by decide)
  have hmentions : armory.Mentions ping pong :=
    ⟨_, List.mem_cons_self, Or.inr ⟨rfl, rfl⟩⟩
  have hback : ¬ ProperPath armory.dependencies pong turret := by
    intro hpath
    obtain ⟨other, _, hneeds⟩ := Relation.TransGen.tail'_iff.1 hpath
    have hnone : ∀ other : armory.StructId, turret ∉ armory.dependencies other := by decide
    exact hnone other hneeds
  have hne : pong ≠ turret := by decide
  exact ⟨turret, ping, pong, hparent, hancestors _ _ hparent, hmentions, hne, hback,
    hmentioned _ _ _ (Or.inr hparent) hmentions hne hback⟩

/-! ## Least arrangements -/

/-- An order of the structs behind which there is no cycle, each after its dependencies. -/
structure Arrangement (c : Catalog) (order : List c.StructId) : Prop where
  nodup : order.Nodup
  members : ∀ s, s ∈ order ↔ ¬ ReachesCycle c.dependencies s
  follows : ∀ s ∈ order, ∀ other ∈ c.dependencies s, Precedes order other s

/-- The first part is an arrangement of the structs behind which there is no cycle. -/
theorem firstPart_arrangement : Arrangement c c.firstPart where
  nodup := firstPart_nodup
  members _ := mem_firstPart_iff
  follows _ hs _ hother := firstPart_precedes hs (Relation.TransGen.single hother)

/-- Any two arrangements have the same structs. -/
theorem Arrangement.perm {first second : List c.StructId} (hfirst : Arrangement c first)
    (hsecond : Arrangement c second) : first.Perm second := by
  rw [List.perm_ext_iff_of_nodup hfirst.nodup hsecond.nodup]
  intro s
  rw [hfirst.members, hsecond.members]

/-- The order starts with the structs behind which there is no cycle and ends with those on or
behind one. The first part is lexicographically least, by place of declaration, among all orders of
its structs in which every struct comes after its dependencies. -/
theorem dependencyOrder_least_first (c : Catalog) :
    ∃ first last, c.dependencyOrder = first ++ last ∧
      (∀ s, s ∈ first ↔ ¬ ReachesCycle c.dependencies s) ∧
      (∀ s, s ∈ last ↔ ReachesCycle c.dependencies s) ∧
      Arrangement c first ∧
      ∀ other, Arrangement c other → first = other ∨ List.Lex (· < ·) first other := by
  refine ⟨c.firstPart, c.lastPart, c.dependencyOrder_eq, fun _ => mem_firstPart_iff,
    fun _ => mem_lastPart_iff, firstPart_arrangement, fun other hother => ?_⟩
  refine placeReady_eq_or_lex (List.pairwise_lt_finRange _) (hother.perm firstPart_arrangement) ?_
  intro s hs dependency _ hneeds
  exact hother.follows s hs dependency hneeds

/-- The first part of an order with a cycle comes before another arrangement of its structs. -/
theorem armory_least_first :
    ∃ weapon trigger item : armory.StructId, Arrangement armory [item, trigger, weapon] ∧
      ∃ first last, armory.dependencyOrder = first ++ last ∧
        (first = [item, trigger, weapon] ∨
          List.Lex (· < ·) first [item, trigger, weapon]) := by
  obtain ⟨first, last, hparts, _, _, _, hleast⟩ := dependencyOrder_least_first armory
  have harrangement :
      Arrangement armory [⟨5, by decide⟩, ⟨4, by decide⟩, ⟨3, by decide⟩] := by
    refine ⟨by decide, fun s => ?_, by decide⟩
    rw [← mem_firstPart_iff]
    revert s
    decide +kernel
  exact ⟨_, _, _, harrangement, first, last, hparts, hleast _ harrangement⟩

end Catalog
end TagSchema
