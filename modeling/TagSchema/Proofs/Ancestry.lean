import Mathlib.Data.Fintype.Card
import Mathlib.Data.List.Chain
import Mathlib.Logic.Relation
import TagSchema.Proofs.Naming

/-!
# Ancestors

In a catalog no struct is its own ancestor: the check for cycles walks up from every struct until
the walk ends or comes to a struct a second time.

Main results:

- `Tables.outcome_loopFrom?`: how the walk up from a struct turns out.
- `Tables.loopFrom?_eq_none_iff`: the walk finds no loop when it ends.
- `Tables.loop_of_cycleFault?`: what the check reports is a cycle of inheritance.
- `Tables.cycleFault?_eq_none_iff`: the check for cycles of inheritance.
- `Catalog.not_ancestor_self`: inheritance has no cycle in a catalog.
- `Catalog.ancestry_eq_lineage`: a lineage does not depend on how far the walk up may go.
-/

namespace TagSchema
namespace Tables

/-- A struct inherits from another one directly. -/
def Inherits (t : Tables) (s parent : t.StructId) : Prop :=
  t.parent? s = some parent

/-- A struct inherits from another one directly or through others. -/
def Ancestor (t : Tables) : t.StructId → t.StructId → Prop :=
  Relation.TransGen t.Inherits

variable {t : Tables}

/-- The parent of a struct is the struct whose name it inherits. -/
theorem DistinctNames.parent?_eq_some_iff (h : t.DistinctNames) {s parent : t.StructId} :
    t.parent? s = some parent ↔ (t.struct s).inherits = some (t.struct parent).name := by
  rw [parent?, Option.bind_eq_some_iff]
  constructor
  · rintro ⟨name, hname, hparent⟩
    rw [hname, h.structId?_eq_some_iff.1 hparent]
  · exact fun hname => ⟨_, hname, h.structId?_eq_some_iff.2 rfl⟩

/-- A struct inherits from a struct of the tables or from none. -/
def ParentKnown (t : Tables) (s : StructDef) : Prop :=
  ∀ name, s.inherits = some name → ∃ parent ∈ t.structs, parent.name = name

/-- The fault of a parent tells the name that no struct has. -/
theorem parentFault?_eq_some_iff (h : t.DistinctNames) {s : StructDef} {fault : SchemaError} :
    t.parentFault? s = some fault ↔ ∃ parent, s.inherits = some parent ∧
      (∀ other ∈ t.structs, other.name ≠ parent) ∧ fault = .unknownParent s.name parent := by
  cases hinherits : s.inherits with
  | none => simp [parentFault?, hinherits]
  | some parent =>
      have hknown : (∃ id, t.typeNamed? parent = some (.struct id)) ↔
          ∃ other ∈ t.structs, other.name = parent := h.typeNamed?_struct_iff
      simp only [parentFault?, hinherits]
      split
      · rename_i id hid
        obtain ⟨other, hother, hname⟩ := hknown.1 ⟨id, hid⟩
        simp only [reduceCtorEq, false_iff, not_exists, not_and]
        rintro _ heq hunknown
        cases heq
        exact absurd hname (hunknown other hother)
      · rename_i hnone
        have hunknown : ∀ other ∈ t.structs, other.name ≠ parent := by
          intro other hother hname
          obtain ⟨id, hid⟩ := hknown.2 ⟨other, hother, hname⟩
          exact hnone id hid
        simp only [Option.some.injEq]
        constructor
        · rintro rfl
          exact ⟨parent, rfl, hunknown, rfl⟩
        · rintro ⟨_, rfl, _, rfl⟩
          rfl

/-- With distinct names, a struct passes when its parent is known. -/
theorem parentFault?_eq_none_iff (h : t.DistinctNames) {s : StructDef} :
    t.parentFault? s = none ↔ t.ParentKnown s := by
  rw [Option.eq_none_iff_forall_ne_some]
  constructor
  · intro hnone name hinherits
    by_contra hunknown
    simp only [not_exists, not_and] at hunknown
    exact hnone _ ((parentFault?_eq_some_iff h).2 ⟨name, hinherits, hunknown, rfl⟩)
  · intro hknown fault hfault
    obtain ⟨parent, hinherits, hunknown, _⟩ := (parentFault?_eq_some_iff h).1 hfault
    obtain ⟨other, hother, hname⟩ := hknown parent hinherits
    exact hunknown other hother hname

/-- There is no fault of parents when every parent is a struct. -/
theorem orphanFault?_eq_none_iff (h : t.DistinctNames) :
    t.orphanFault? = none ↔ ∀ s ∈ t.structs, t.ParentKnown s := by
  simp only [orphanFault?, List.findSome?_eq_none_iff, parentFault?_eq_none_iff h]

/-- The parent of a struct that is its own ancestor is its own ancestor as well. -/
theorem Ancestor.exists_parent {s : t.StructId} (h : t.Ancestor s s) :
    ∃ parent, t.Inherits s parent ∧ t.Ancestor parent parent := by
  obtain ⟨parent, hparent, hback⟩ := Relation.TransGen.head'_iff.1 h
  exact ⟨parent, hparent, Relation.TransGen.tail' hback hparent⟩

/-! ## Walks up -/

theorem head?_ancestry (steps : Nat) (s : t.StructId) : (t.ancestry steps s).head? = some s := by
  cases steps with
  | zero => rfl
  | succ steps =>
      unfold ancestry
      split <;> rfl

/-- A walk up that ends early ends there with more steps as well. -/
theorem ancestry_add {steps : Nat} {s : t.StructId} (h : (t.ancestry steps s).length ≤ steps)
    (more : Nat) : t.ancestry (steps + more) s = t.ancestry steps s := by
  induction steps generalizing s with
  | zero => simp [ancestry] at h
  | succ steps ih =>
      rw [Nat.succ_add]
      cases hparent : t.parent? s with
      | none => simp only [ancestry, hparent]
      | some parent =>
          simp only [ancestry, hparent, List.length_cons, Nat.add_le_add_iff_right] at h ⊢
          rw [ih h]

/-- A walk up goes from each struct to its parent. -/
theorem isChain_ancestry (steps : Nat) (s : t.StructId) :
    (t.ancestry steps s).IsChain t.Inherits := by
  induction steps generalizing s with
  | zero => exact List.IsChain.singleton s
  | succ steps ih =>
      cases hparent : t.parent? s with
      | none =>
          simp only [ancestry, hparent]
          exact List.IsChain.singleton s
      | some parent =>
          simp only [ancestry, hparent]
          rw [List.isChain_cons]
          refine ⟨fun next hnext => ?_, ih parent⟩
          rw [head?_ancestry] at hnext
          cases hnext
          exact hparent

/-- The struct that a walk up from a struct is at after some steps, unless it has ended. -/
def ancestorAt? (t : Tables) (s : t.StructId) : Nat → Option t.StructId
  | 0 => some s
  | steps + 1 => (t.ancestorAt? s steps).bind t.parent?

/-- A walk up from a struct starts with these structs. -/
def Visits (t : Tables) (s : t.StructId) (walk : List t.StructId) : Prop :=
  ∀ i < walk.length, walk[i]? = t.ancestorAt? s i

/-- A walk up from a struct never ends. -/
def WalksForever (t : Tables) (s : t.StructId) : Prop :=
  ∀ steps, t.ancestorAt? s steps ≠ none

section Walk

variable {s next : t.StructId} {walk : List t.StructId}

theorem Visits.start : t.Visits s [s] := by
  intro i hi
  have hzero : i = 0 := by simpa using hi
  subst hzero
  rfl

/-- A walk that goes one step further. -/
theorem Visits.append (h : t.Visits s walk) (hnext : t.ancestorAt? s walk.length = some next) :
    t.Visits s (walk ++ [next]) := by
  intro i hi
  by_cases hlast : i = walk.length
  · subst hlast
    rw [List.getElem?_concat_length, hnext]
  · have hlt : i < walk.length := by
      simp only [List.length_append, List.length_singleton] at hi
      omega
    rw [List.getElem?_append_left hlt, h i hlt]

/-- A walk goes from each struct to its parent. -/
theorem Visits.isChain (h : t.Visits s walk) : walk.IsChain t.Inherits := by
  rw [List.isChain_iff_getElem]
  intro i hi
  have hthis := h i (by omega)
  have hthat := h (i + 1) hi
  rw [List.getElem?_eq_getElem (by omega)] at hthis
  rw [List.getElem?_eq_getElem hi, ancestorAt?, ← hthis] at hthat
  exact hthat.symm

/-- A walk up from a struct that is its own ancestor never ends. -/
theorem walksForever_of_cycle (h : t.Ancestor s s) : t.WalksForever s := by
  have hcycle : ∀ steps, ∃ x, t.ancestorAt? s steps = some x ∧ t.Ancestor x x := by
    intro steps
    induction steps with
    | zero => exact ⟨s, rfl, h⟩
    | succ steps ih =>
        obtain ⟨x, hx, hback⟩ := ih
        obtain ⟨parent, hparent, hback⟩ := hback.exists_parent
        exact ⟨parent, by rw [ancestorAt?, hx]; exact hparent, hback⟩
  intro steps hnone
  obtain ⟨x, hx, _⟩ := hcycle steps
  rw [hnone] at hx
  cases hx

end Walk

/-! ## Loops -/

/-- A way from a struct up to itself that visits no other struct twice. -/
structure Loop (t : Tables) (loop : List t.StructId) : Prop where
  steps : loop.IsChain t.Inherits
  closed : loop.head? = loop.getLast?
  proper : 2 ≤ loop.length
  nodup : loop.dropLast.Nodup

/-- A walk up from a struct goes through some structs into a loop. Nothing is visited twice before
the walk is back at the first struct of the loop. -/
structure RunsInto (t : Tables) (s : t.StructId) (before loop : List t.StructId) : Prop where
  visits : t.Visits s (before ++ loop)
  distinct : (before ++ loop.dropLast).Nodup
  closed : loop.head? = loop.getLast?
  proper : 2 ≤ loop.length

/-- Some struct of a loop is its own ancestor. -/
theorem Loop.exists_cycle {loop : List t.StructId} (h : t.Loop loop) : ∃ s, t.Ancestor s s := by
  have hancestors : loop.Pairwise t.Ancestor :=
    (h.steps.imp fun _ _ => Relation.TransGen.single).pairwise
  have hfirst := h.closed
  have hproper := h.proper
  rw [List.head?_eq_getElem?, List.getLast?_eq_getElem?, List.getElem?_eq_getElem (by omega),
    List.getElem?_eq_getElem (by omega), Option.some.injEq] at hfirst
  refine ⟨loop[0], ?_⟩
  have hback := List.pairwise_iff_getElem.1 hancestors 0 (loop.length - 1) (by omega) (by omega)
    (by omega)
  rwa [← hfirst] at hback

section RunsInto

variable {s : t.StructId} {before loop : List t.StructId}

/-- What a walk runs into is a loop. -/
theorem RunsInto.isLoop (h : t.RunsInto s before loop) : t.Loop loop where
  steps := h.visits.isChain.right_of_append
  closed := h.closed
  proper := h.proper
  nodup := (List.nodup_append.1 h.distinct).2.1

/-- The last struct of a walk into a loop was visited before. -/
theorem RunsInto.ancestorAt?_last (h : t.RunsInto s before loop) :
    t.ancestorAt? s (before ++ loop.dropLast).length = t.ancestorAt? s before.length := by
  have hproper := h.proper
  have hclosed := h.closed
  have hfirst := h.visits before.length (by simp only [List.length_append]; omega)
  have hlast := h.visits (before ++ loop.dropLast).length (by
    simp only [List.length_append, List.length_dropLast]
    omega)
  have hplace : (before ++ loop.dropLast).length - before.length = loop.length - 1 := by
    simp only [List.length_append, List.length_dropLast]
    omega
  rw [← hfirst, ← hlast, List.getElem?_append_right (by simp), hplace, ← List.getLast?_eq_getElem?,
    ← hclosed, List.getElem?_append_right (Nat.le_refl _), Nat.sub_self, List.head?_eq_getElem?]

/-- A walk into a loop stays among the structs that it visits up to the loop's end. -/
theorem RunsInto.exists_earlier (h : t.RunsInto s before loop) (steps : Nat) :
    ∃ i < (before ++ loop).length, t.ancestorAt? s steps = t.ancestorAt? s i := by
  have hproper := h.proper
  have hlength : (before ++ loop).length = (before ++ loop.dropLast).length + 1 := by
    simp only [List.length_append, List.length_dropLast]
    omega
  have hbefore : before.length + 1 < (before ++ loop).length := by
    simp only [List.length_append]
    omega
  induction steps with
  | zero => exact ⟨0, by omega, rfl⟩
  | succ steps ih =>
      obtain ⟨i, hi, heq⟩ := ih
      by_cases hlast : i = (before ++ loop.dropLast).length
      · refine ⟨before.length + 1, hbefore, ?_⟩
        rw [ancestorAt?, ancestorAt?, heq, hlast, h.ancestorAt?_last]
      · refine ⟨i + 1, by omega, ?_⟩
        rw [ancestorAt?, ancestorAt?, heq]

/-- A walk that runs into a loop never ends. -/
theorem RunsInto.walksForever (h : t.RunsInto s before loop) : t.WalksForever s := by
  intro steps
  obtain ⟨i, hi, heq⟩ := h.exists_earlier steps
  rw [heq, ← h.visits i hi, List.getElem?_eq_getElem hi]
  exact Option.some_ne_none _

end RunsInto

/-- How the walk up from a struct turns out: it ends after as many steps as there are structs, or it
runs into a loop by then. -/
inductive Outcome (t : Tables) (s : t.StructId) : Option (List t.StructId) → Prop
  | ended {steps : Nat} (few : steps ≤ t.structs.length) (root : t.ancestorAt? s steps = none) :
      Outcome t s none
  | closed {before loop : List t.StructId} (few : (before ++ loop).length ≤ t.structs.length + 1)
      (runs : t.RunsInto s before loop) :
      Outcome t s (some loop)

/-- The loop of the check keeps a walk up without repetitions behind it, and its next struct is the
one that the walk comes to. -/
theorem outcome_closeLoop? {s : t.StructId} {chain : List t.StructId} {next? : Option t.StructId}
    (hvisits : t.Visits s chain) (hnodup : chain.Nodup)
    (hnext : t.ancestorAt? s chain.length = next?) : t.Outcome s (t.closeLoop? chain next?) := by
  have hfew : chain.length ≤ t.structs.length := by simpa using hnodup.length_le_card
  fun_induction closeLoop? t chain next? with
  | case1 chain => exact .ended hfew hnext
  | case2 chain next hagain =>
      obtain ⟨before, after, rfl, hnot⟩ := List.eq_append_cons_of_mem hagain
      have hdrop : (before ++ next :: after).dropWhile (· ≠ next) = next :: after := by
        rw [List.dropWhile_append_of_pos]
        · simp
        · intro other hother
          have hne : other ≠ next := fun heq => hnot (heq ▸ hother)
          simpa using hne
      rw [hdrop]
      have hruns : t.RunsInto s before ((next :: after) ++ [next]) := by
        refine ⟨?_, ?_, ?_, by simp⟩
        · simpa using hvisits.append hnext
        · rwa [List.dropLast_concat]
        · rw [List.getLast?_concat, List.cons_append, List.head?_cons]
      refine .closed ?_ hruns
      simp only [List.length_append, List.length_cons, List.length_nil] at hfew ⊢
      omega
  | case3 chain next hfresh ih =>
      have hnodup' : (chain ++ [next]).Nodup := by
        rw [List.nodup_append_comm, List.singleton_append, List.nodup_cons]
        exact ⟨hfresh, hnodup⟩
      refine ih (hvisits.append hnext) hnodup' ?_ (by simpa using hnodup'.length_le_card)
      rw [List.length_append, List.length_singleton, ancestorAt?, hnext]
      rfl

/-- What the check finds out about the walk up from a struct. -/
theorem outcome_loopFrom? (t : Tables) (s : t.StructId) : t.Outcome s (t.loopFrom? s) :=
  outcome_closeLoop? Visits.start (List.nodup_singleton s) rfl

/-- The check finds no loop when the walk up ends. -/
theorem loopFrom?_eq_none_iff {s : t.StructId} : t.loopFrom? s = none ↔ ¬ t.WalksForever s := by
  have houtcome := t.outcome_loopFrom? s
  constructor
  · intro hnone
    rw [hnone] at houtcome
    cases houtcome with
    | ended _ hroot => exact fun hforever => hforever _ hroot
  · intro hends
    cases hloop : t.loopFrom? s with
    | none => rfl
    | some loop =>
        rw [hloop] at houtcome
        cases houtcome with
        | closed _ hruns => exact absurd hruns.walksForever hends

/-- The fault of inheritance tells a loop. -/
theorem loop_of_cycleFault? {fault : SchemaError} (h : t.cycleFault? = some fault) :
    ∃ loop, t.Loop loop ∧ fault = .inheritanceCycle (loop.map fun id => (t.struct id).name) := by
  rw [cycleFault?, Option.map_eq_some_iff] at h
  obtain ⟨loop, hloop, rfl⟩ := h
  obtain ⟨s, _, hfrom⟩ := List.exists_of_findSome?_eq_some hloop
  have houtcome := t.outcome_loopFrom? s
  rw [hfrom] at houtcome
  cases houtcome with
  | closed _ hruns => exact ⟨loop, hruns.isLoop, rfl⟩

/-- There is no fault of inheritance when no struct is its own ancestor. -/
theorem cycleFault?_eq_none_iff : t.cycleFault? = none ↔ ∀ s, ¬ t.Ancestor s s := by
  constructor
  · intro h s hcycle
    rw [cycleFault?, Option.map_eq_none_iff, List.findSome?_eq_none_iff] at h
    exact loopFrom?_eq_none_iff.1 (h s (List.mem_finRange s)) (walksForever_of_cycle hcycle)
  · intro hacyclic
    cases hfault : t.cycleFault? with
    | none => rfl
    | some fault =>
        obtain ⟨loop, hloop, _⟩ := loop_of_cycleFault? hfault
        obtain ⟨s, hcycle⟩ := hloop.exists_cycle
        exact absurd hcycle (hacyclic s)

/-- Without a fault of inheritance, no lineage visits a struct twice. -/
theorem lineage_nodup_of_cycleFault? (h : t.cycleFault? = none) (s : t.StructId) :
    (t.lineage s).Nodup := by
  have hancestors : (t.lineage s).Pairwise t.Ancestor :=
    ((isChain_ancestry _ s).imp fun _ _ => Relation.TransGen.single).pairwise
  refine hancestors.imp ?_
  rintro a b hab rfl
  exact cycleFault?_eq_none_iff.1 h a hab

end Tables

namespace Catalog

variable (c : Catalog)

/-- There is no cycle of parents in a catalog. -/
theorem cycleFault?_eq_none : c.cycleFault? = none := by
  have h := c.faultless
  simp only [Tables.fault?, Option.or_eq_none_iff] at h
  exact h.2.2.2

/-- No struct of a catalog is its own ancestor. -/
theorem not_ancestor_self (s : c.StructId) : ¬ c.Ancestor s s :=
  Tables.cycleFault?_eq_none_iff.1 c.cycleFault?_eq_none s

/-- A lineage holds at most as many structs as there are. -/
theorem length_lineage_le (s : c.StructId) : (c.lineage s).length ≤ c.structs.length := by
  have hnodup := Tables.lineage_nodup_of_cycleFault? c.cycleFault?_eq_none s
  simpa using hnodup.length_le_card

/-- Longer walks up give nothing more than a lineage. -/
theorem ancestry_eq_lineage (s : c.StructId) {steps : Nat} (h : c.structs.length ≤ steps) :
    c.ancestry steps s = c.lineage s := by
  obtain ⟨more, rfl⟩ := Nat.exists_eq_add_of_le h
  exact Tables.ancestry_add (c.length_lineage_le s) more

/-! ## Parents -/

/-- The parent of a struct is the struct whose name it inherits. -/
theorem parent?_eq_some_iff {s parent : c.StructId} :
    c.parent? s = some parent ↔ (c.struct s).inherits = some (c.struct parent).name :=
  c.distinctNames.parent?_eq_some_iff

/-- A struct that inherits a name has a parent. -/
theorem exists_parent {s : c.StructId} {name : String} (h : (c.struct s).inherits = some name) :
    ∃ parent, c.parent? s = some parent := by
  have hfault := c.faultless
  simp only [Tables.fault?, Option.or_eq_none_iff] at hfault
  have hknown := (Tables.orphanFault?_eq_none_iff c.distinctNames).1 hfault.2.2.1
  obtain ⟨other, hother, rfl⟩ := hknown (c.struct s) (List.get_mem _ _) name h
  obtain ⟨parent, rfl⟩ := List.mem_iff_get.1 hother
  exact ⟨parent, c.parent?_eq_some_iff.2 h⟩

end Catalog
end TagSchema
