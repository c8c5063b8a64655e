import TagSchema.Proofs.Acceptance

/-!
# Reported cycles of inheritance

Where inheritance is cyclic, the check reports a cycle that is there: the one that is reached from
the first struct whose walk up does not end, without the structs that only lead into it.

Main results:

- `Tables.exists_start_of_cycleFault?`: the struct whose walk up is reported.
- `Tables.Loop.nameCycle`: the names of a loop of structs.
- `Tables.cycleFault?_reports_cycle`: the check as a whole.
-/

namespace TagSchema
namespace Tables

variable {t : Tables}

/-- A struct with the first name inherits the second one. -/
def InheritsName (t : Tables) (child parent : String) : Prop :=
  ∃ s ∈ t.structs, s.name = child ∧ s.inherits = some parent

/-- Names that lead by inheritance from one name back to it, and to no other name twice. -/
structure NameCycle (t : Tables) (chain : List String) : Prop where
  steps : chain.IsChain t.InheritsName
  closed : chain.head? = chain.getLast?
  proper : 2 ≤ chain.length
  nodup : chain.dropLast.Nodup

/-- With distinct names, the names of a loop are those of a cycle. -/
theorem Loop.nameCycle {loop : List t.StructId} (h : t.Loop loop) (hnames : t.DistinctNames) :
    t.NameCycle (loop.map fun id => (t.struct id).name) where
  steps := by
    rw [List.isChain_map]
    refine h.steps.imp fun s parent hparent => ?_
    exact ⟨t.struct s, List.get_mem _ _, rfl, hnames.parent?_eq_some_iff.1 hparent⟩
  closed := by
    rw [List.head?_map, List.getLast?_map, h.closed]
  proper := by
    rw [List.length_map]
    exact h.proper
  nodup := by
    rw [← List.map_dropLast]
    exact h.nodup.map fun s other hsame => hnames.struct_injective hsame

/-- The fault of inheritance tells the loop of the first struct whose walk up does not end. -/
theorem exists_start_of_cycleFault? {fault : SchemaError} (h : t.cycleFault? = some fault) :
    ∃ start before loop, t.RunsInto start before loop ∧ (∀ s < start, ¬ t.WalksForever s) ∧
      fault = .inheritanceCycle (loop.map fun id => (t.struct id).name) := by
  rw [cycleFault?, Option.map_eq_some_iff] at h
  obtain ⟨loop, hfound, rfl⟩ := h
  obtain ⟨earlier, start, later, hids, hloop, hnone⟩ := List.findSome?_eq_some_iff.1 hfound
  have hlower : ∀ s < start, ¬ t.WalksForever s := by
    intro s hs
    have hincreasing : (earlier ++ start :: later).Pairwise (· < ·) := by
      rw [← hids]
      exact List.pairwise_lt_finRange _
    have hmem : s ∈ earlier ++ start :: later := by
      rw [← hids]
      exact List.mem_finRange s
    rcases List.mem_append.1 hmem with hearlier | hlater
    · exact loopFrom?_eq_none_iff.1 (hnone s hearlier)
    -- The structs from `start` on are not below it.
    · have hstart := (List.pairwise_cons.1 (List.pairwise_append.1 hincreasing).2.1).1
      rcases List.mem_cons.1 hlater with rfl | hlater
      · exact absurd hs (lt_irrefl s)
      · exact absurd hs (lt_asymm (hstart s hlater))
  have houtcome := t.outcome_loopFrom? start
  rw [hloop] at houtcome
  cases houtcome with
  | closed _ hruns => exact ⟨start, _, loop, hruns, hlower, rfl⟩

/-- The check for cycles of inheritance. From every struct the walk up ends, or it comes to a struct
a second time, after at most as many steps as there are structs. There is no fault exactly when no
struct is its own ancestor. A fault tells the loop that is reached from the first struct whose walk
up does not end, from the first struct that is visited twice on; with distinct names, its names are
those of a cycle. -/
theorem cycleFault?_reports_cycle (t : Tables) :
    (∀ s, t.Outcome s (t.loopFrom? s)) ∧
    (t.cycleFault? = none ↔ ∀ s, ¬ t.Ancestor s s) ∧
    ∀ fault, t.cycleFault? = some fault →
      ∃ start before loop, t.RunsInto start before loop ∧ t.Loop loop ∧
        t.WalksForever start ∧ (∀ s < start, ¬ t.WalksForever s) ∧
        fault = .inheritanceCycle (loop.map fun id => (t.struct id).name) ∧
        (t.DistinctNames → t.NameCycle (loop.map fun id => (t.struct id).name)) := by
  refine ⟨t.outcome_loopFrom?, cycleFault?_eq_none_iff, fun fault hfault => ?_⟩
  obtain ⟨start, before, loop, hruns, hlower, hnames⟩ := exists_start_of_cycleFault? hfault
  exact ⟨start, before, loop, hruns, hruns.isLoop, hruns.walksForever, hlower, hnames,
    hruns.isLoop.nameCycle⟩

/-- A struct without a parent, two structs that lead into a cycle of two others, and a struct above
itself. -/
def carousel : Tables where
  structs := [
    { name := "Base" },
    { name := "Rider", inherits := some "Horse" },
    { name := "Horse", inherits := some "Pole" },
    { name := "Axle", inherits := some "Pole" },
    { name := "Pole", inherits := some "Axle" },
    { name := "Mirror", inherits := some "Mirror" }]

/-- The cycle of the two structs is reported, and not the way into it. -/
theorem carousel_reports_cycle :
    carousel.DistinctNames ∧
    carousel.cycleFault? = some (.inheritanceCycle ["Pole", "Axle", "Pole"]) ∧
    carousel.NameCycle ["Pole", "Axle", "Pole"] ∧
    ∃ s, carousel.Ancestor s s := by
  have hnames : carousel.DistinctNames := duplicateFault?_eq_none_iff.1 (by decide)
  have hfault : carousel.cycleFault? = some (.inheritanceCycle ["Pole", "Axle", "Pole"]) := by
    decide
  obtain ⟨_, hacyclic, hreports⟩ := cycleFault?_reports_cycle carousel
  obtain ⟨start, before, loop, _, hloop, _, _, htold, hcycle⟩ := hreports _ hfault
  have hchain : loop.map (fun id => (carousel.struct id).name) = ["Pole", "Axle", "Pole"] := by
    rw [SchemaError.inheritanceCycle.injEq] at htold
    exact htold.symm
  refine ⟨hnames, hfault, hchain ▸ hcycle hnames, hloop.exists_cycle⟩

end Tables
end TagSchema
