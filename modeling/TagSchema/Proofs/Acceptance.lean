import TagSchema.Proofs.Ancestry

/-!
# Accepted tables

The checks of a catalog accept exactly the well-formed tables. Otherwise they report the first
condition that is violated: names, then the bitfields one by one, then parents, then cycles.

Main results:

- `Tables.fault?_eq_none_iff`: tables have no fault when they are well formed.
- `Tables.firstFault_of_fault?`: the fault of tables is that of the first violated condition.
- `Catalog.typeNamed?_eq_some_iff`: a name refers to exactly the entry that has it.
- `Catalog.ofTables_accepts_wellFormed`: acceptance as a whole.
-/

namespace TagSchema
namespace Tables

variable {t : Tables}

/-! ## Conditions -/

/-- A bitfield has one of the four widths and at most that many bits. -/
def WidthFits (b : BitfieldDef) : Prop :=
  (b.width = 8 ∨ b.width = 16 ∨ b.width = 32 ∨ b.width = 64) ∧ b.fields.length ≤ b.width

/-- A bitfield fits its width and declares all of its cache-only bits. -/
def BitfieldFits (b : BitfieldDef) : Prop :=
  WidthFits b ∧ ∀ bit ∈ b.cacheOnly, bit ∈ b.fields

/-- A struct names another one as its parent. -/
def NamesParent (t : Tables) (s parent : t.StructId) : Prop :=
  (t.struct s).inherits = some (t.struct parent).name

/-- Tables that a catalog can be made of. -/
structure WellFormed (t : Tables) : Prop where
  names : t.DistinctNames
  bitfields : ∀ b ∈ t.bitfields, BitfieldFits b
  parents : ∀ s ∈ t.structs, t.ParentKnown s
  acyclic : ∀ s, ¬ Relation.TransGen t.NamesParent s s

/-- The fault of the first condition that tables violate. Each case holds what was found in order
before it. -/
inductive FirstFault (t : Tables) : SchemaError → Prop
  | duplicate {before after : List (DefinitionKind × String)} {kind : DefinitionKind}
      {name : String} (entries : t.names = before ++ (kind, name) :: after)
      (distinct : (before.map Prod.snd).Nodup) (again : name ∈ before.map Prod.snd) :
      FirstFault t (.duplicate kind name)
  | tooWide {before after : List BitfieldDef} {b : BitfieldDef} (names : t.DistinctNames)
      (entries : t.bitfields = before ++ b :: after) (fit : ∀ other ∈ before, BitfieldFits other)
      (wide : ¬ WidthFits b) :
      FirstFault t (.tooWide b.name b.fields.length b.width)
  | unknownBit {before after : List BitfieldDef} {b : BitfieldDef} {bits more : List String}
      {bit : String} (names : t.DistinctNames) (entries : t.bitfields = before ++ b :: after)
      (fit : ∀ other ∈ before, BitfieldFits other) (width : WidthFits b)
      (cacheOnly : b.cacheOnly = bits ++ bit :: more) (declared : ∀ other ∈ bits, other ∈ b.fields)
      (undeclared : bit ∉ b.fields) :
      FirstFault t (.unknownBit (b.name ++ ".cache_only") b.name bit)
  | unknownParent {before after : List StructDef} {s : StructDef} {parent : String}
      (names : t.DistinctNames) (bitfields : ∀ b ∈ t.bitfields, BitfieldFits b)
      (entries : t.structs = before ++ s :: after) (known : ∀ other ∈ before, t.ParentKnown other)
      (inherits : s.inherits = some parent) (unknown : ∀ other ∈ t.structs, other.name ≠ parent) :
      FirstFault t (.unknownParent s.name parent)
  | inheritanceCycle {loop : List t.StructId} (names : t.DistinctNames)
      (bitfields : ∀ b ∈ t.bitfields, BitfieldFits b) (parents : ∀ s ∈ t.structs, t.ParentKnown s)
      (cycle : t.Loop loop) :
      FirstFault t (.inheritanceCycle (loop.map fun id => (t.struct id).name))

/-! ## Names -/

/-- The repeated name is the first one that was seen before. -/
theorem repeatedName?_eq_some {seen : List String} (hseen : seen.Nodup)
    {entries : List (DefinitionKind × String)} {kind : DefinitionKind} {name : String}
    (h : repeatedName? seen entries = some (kind, name)) :
    ∃ before after, entries = before ++ (kind, name) :: after ∧
      (seen.reverse ++ before.map Prod.snd).Nodup ∧ name ∈ seen.reverse ++ before.map Prod.snd := by
  induction entries generalizing seen with
  | nil => cases h
  | cons entry entries ih =>
      obtain ⟨kind', name'⟩ := entry
      by_cases hagain : name' ∈ seen
      · simp only [repeatedName?, List.contains_eq_mem, hagain, decide_true, if_true,
          Option.some.injEq] at h
        cases h
        exact ⟨[], entries, rfl, by simpa using hseen, by simpa using hagain⟩
      · simp only [repeatedName?, List.contains_eq_mem, hagain, decide_false, Bool.false_eq_true,
          if_false] at h
        obtain ⟨before, after, rfl, hnodup, hmem⟩ := ih (List.nodup_cons.2 ⟨hagain, hseen⟩) h
        rw [List.reverse_cons, List.append_assoc] at hnodup hmem
        exact ⟨(kind', name') :: before, after, rfl, hnodup, hmem⟩

/-- The first name that comes twice is the first fault. -/
theorem firstFault_of_duplicateFault? {fault : SchemaError} (h : t.duplicateFault? = some fault) :
    t.FirstFault fault := by
  rw [duplicateFault?, Option.map_eq_some_iff] at h
  obtain ⟨⟨kind, name⟩, hfound, rfl⟩ := h
  obtain ⟨before, after, hentries, hnodup, hagain⟩ :=
    repeatedName?_eq_some List.nodup_nil hfound
  exact .duplicate hentries hnodup hagain

/-! ## Bitfields -/

/-- A bitfield passes the check of its width when its bits fit. -/
theorem widthFault?_eq_none_iff {b : BitfieldDef} : widthFault? b = none ↔ WidthFits b := by
  have hwidths : b.width ∈ bitfieldWidths ↔
      b.width = 8 ∨ b.width = 16 ∨ b.width = 32 ∨ b.width = 64 := by
    simp [bitfieldWidths]
  simp only [widthFault?, WidthFits, ← hwidths, List.contains_eq_mem]
  by_cases hwidth : b.width ∈ bitfieldWidths <;> simp [hwidth]

/-- The fault of a bitfield that is too wide names its bits and its width. -/
theorem widthFault?_eq_some {b : BitfieldDef} {fault : SchemaError}
    (h : widthFault? b = some fault) : fault = .tooWide b.name b.fields.length b.width := by
  unfold widthFault? at h
  split at h
  · exact (Option.some.inj h).symm
  · cases h

/-- A bit without a position is none of the bitfield. -/
theorem position?_isNone_iff {b : BitfieldDef} {bit : String} :
    (b.position? bit).isNone = true ↔ bit ∉ b.fields := by
  simp only [BitfieldDef.position?, Option.isNone_iff_eq_none, List.findIdx?_eq_none_iff,
    beq_eq_false_iff_ne]
  exact ⟨fun h hmem => h bit hmem rfl, fun h other hother heq => h (heq ▸ hother)⟩

/-- Bits for the cache only pass their check when they are bits of the bitfield. -/
theorem cacheOnlyFault?_eq_none_iff {b : BitfieldDef} :
    cacheOnlyFault? b = none ↔ ∀ bit ∈ b.cacheOnly, bit ∈ b.fields := by
  simp only [cacheOnlyFault?, Option.map_eq_none_iff, List.find?_eq_none, position?_isNone_iff,
    Decidable.not_not]

/-- There is no fault among the bitfields when all of them fit. -/
theorem bitfieldFault?_eq_none_iff :
    t.bitfieldFault? = none ↔ ∀ b ∈ t.bitfields, BitfieldFits b := by
  simp only [bitfieldFault?, List.findSome?_eq_none_iff, Option.or_eq_none_iff,
    widthFault?_eq_none_iff, cacheOnlyFault?_eq_none_iff, BitfieldFits]

/-- With distinct names, the first fault of a bitfield is the first fault. -/
theorem firstFault_of_bitfieldFault? (hnames : t.DistinctNames) {fault : SchemaError}
    (h : t.bitfieldFault? = some fault) : t.FirstFault fault := by
  rw [bitfieldFault?, List.findSome?_eq_some_iff] at h
  obtain ⟨before, b, after, hentries, hb, hbefore⟩ := h
  have hfit : ∀ other ∈ before, BitfieldFits other := by
    intro other hother
    have hnone := hbefore other hother
    rw [Option.or_eq_none_iff, widthFault?_eq_none_iff, cacheOnlyFault?_eq_none_iff] at hnone
    exact hnone
  cases hwidth : widthFault? b with
  | some first =>
      rw [hwidth, Option.some_or, Option.some.injEq] at hb
      subst hb
      rw [widthFault?_eq_some hwidth]
      refine .tooWide hnames hentries hfit ?_
      rw [← widthFault?_eq_none_iff, hwidth]
      exact Option.some_ne_none _
  | none =>
      rw [hwidth, Option.none_or, cacheOnlyFault?, Option.map_eq_some_iff] at hb
      obtain ⟨bit, hfound, rfl⟩ := hb
      obtain ⟨hbit, bits, more, hcacheOnly, hdeclared⟩ := List.find?_eq_some_iff_append.1 hfound
      refine .unknownBit hnames hentries hfit (widthFault?_eq_none_iff.1 hwidth) hcacheOnly ?_
        (position?_isNone_iff.1 hbit)
      intro other hother
      have hnot := hdeclared other hother
      rw [Bool.not_eq_true', ← Bool.not_eq_true, position?_isNone_iff, Decidable.not_not] at hnot
      exact hnot

/-! ## Parents -/

/-- When all bitfields fit, the first missing parent is the first fault. -/
theorem firstFault_of_orphanFault? (hnames : t.DistinctNames)
    (hbitfields : ∀ b ∈ t.bitfields, BitfieldFits b) {fault : SchemaError}
    (h : t.orphanFault? = some fault) : t.FirstFault fault := by
  rw [orphanFault?, List.findSome?_eq_some_iff] at h
  obtain ⟨before, s, after, hentries, hs, hbefore⟩ := h
  obtain ⟨parent, hinherits, hunknown, rfl⟩ := (parentFault?_eq_some_iff hnames).1 hs
  refine .unknownParent hnames hbitfields hentries ?_ hinherits hunknown
  exact fun other hother => (parentFault?_eq_none_iff hnames).1 (hbefore other hother)

/-! ## All checks -/

/-- With distinct names, the parent of a struct is the one that it names. -/
theorem DistinctNames.inherits_eq (h : t.DistinctNames) : t.Inherits = t.NamesParent := by
  ext s parent
  exact h.parent?_eq_some_iff

/-- Tables have no fault when they are well formed. -/
theorem fault?_eq_none_iff : t.fault? = none ↔ t.WellFormed := by
  simp only [fault?, Option.or_eq_none_iff, duplicateFault?_eq_none_iff, bitfieldFault?_eq_none_iff]
  constructor
  · rintro ⟨hnames, hbitfields, hparents, hcycles⟩
    refine ⟨hnames, hbitfields, (orphanFault?_eq_none_iff hnames).1 hparents, ?_⟩
    rw [← hnames.inherits_eq]
    exact cycleFault?_eq_none_iff.1 hcycles
  · rintro ⟨hnames, hbitfields, hparents, hacyclic⟩
    refine ⟨hnames, hbitfields, (orphanFault?_eq_none_iff hnames).2 hparents, ?_⟩
    rw [← hnames.inherits_eq] at hacyclic
    exact cycleFault?_eq_none_iff.2 hacyclic

/-- The fault of tables is that of the first violated condition. -/
theorem firstFault_of_fault? {fault : SchemaError} (h : t.fault? = some fault) :
    t.FirstFault fault := by
  simp only [fault?, Option.or_eq_some_iff] at h
  rcases h with hduplicate | ⟨hnames, hbitfield | ⟨hbitfields, horphan | ⟨hparents, hcycle⟩⟩⟩
  · exact firstFault_of_duplicateFault? hduplicate
  · exact firstFault_of_bitfieldFault? (duplicateFault?_eq_none_iff.1 hnames) hbitfield
  · exact firstFault_of_orphanFault? (duplicateFault?_eq_none_iff.1 hnames)
      (bitfieldFault?_eq_none_iff.1 hbitfields) horphan
  · rw [duplicateFault?_eq_none_iff] at hnames
    obtain ⟨loop, hloop, rfl⟩ := loop_of_cycleFault? hcycle
    exact .inheritanceCycle hnames (bitfieldFault?_eq_none_iff.1 hbitfields)
      ((orphanFault?_eq_none_iff hnames).1 hparents) hloop

/-! ## Look-up -/

/-- A reference leads to the entry at one handle, and that entry has a given name. -/
def RefersTo (t : Tables) (name : String) : TypeRef t.structs.length → Prop
  | .enumeration e => (∃! handle : Fin t.enums.length, t.enums.get handle = e) ∧ e.name = name
  | .bitfield b => (∃! handle : Fin t.bitfields.length, t.bitfields.get handle = b) ∧ b.name = name
  | .struct handle => (t.struct handle).name = name

/-- Different references lead to different entries. -/
theorem DistinctNames.entry_injective (h : t.DistinctNames) {ref other : TypeRef t.structs.length}
    (heq : t.entry ref = t.entry other) : ref = other := by
  cases ref <;> cases other <;> simp only [entry, reduceCtorEq, Definition.enumeration.injEq,
    Definition.bitfield.injEq, Definition.struct.injEq] at heq
  · rw [heq]
  · rw [heq]
  · rw [h.struct_injective (congrArg StructDef.name heq)]

theorem DistinctNames.enums_nodup (h : t.DistinctNames) : t.enums.Nodup := by
  simp only [DistinctNames, definitions, List.map_append] at h
  exact ((List.nodup_append.1 (List.nodup_append.1 h).1).1.of_map _).of_map _

theorem DistinctNames.bitfields_nodup (h : t.DistinctNames) : t.bitfields.Nodup := by
  simp only [DistinctNames, definitions, List.map_append] at h
  exact ((List.nodup_append.1 (List.nodup_append.1 h).1).2.1.of_map _).of_map _

end Tables

/-- A member of a list without repetitions stands at one place. -/
theorem existsUnique_get_iff {α : Type} {items : List α} (h : items.Nodup) {a : α} :
    (∃! place : Fin items.length, items.get place = a) ↔ a ∈ items := by
  rw [List.mem_iff_get]
  constructor
  · exact fun hplace => hplace.exists
  · rintro ⟨place, rfl⟩
    exact ⟨place, rfl, fun other hother => List.nodup_iff_injective_get.1 h hother⟩

namespace Catalog

/-- A reference to an entry with a name is a reference to the definition with that name. -/
theorem refersTo_iff (c : Catalog) {name : String} {ref : TypeRef c.structs.length} :
    c.RefersTo name ref ↔ c.entry ref ∈ c.definitions ∧ (c.entry ref).name = name := by
  cases ref with
  | enumeration e =>
      rw [Tables.RefersTo, existsUnique_get_iff c.distinctNames.enums_nodup]
      simp [Tables.entry, Tables.definitions, Definition.name]
  | bitfield b =>
      rw [Tables.RefersTo, existsUnique_get_iff c.distinctNames.bitfields_nodup]
      simp [Tables.entry, Tables.definitions, Definition.name]
  | struct handle =>
      have hmem := Tables.struct_mem_definitions_iff.2 ⟨handle, rfl⟩
      simp [Tables.RefersTo, Tables.entry, Definition.name, hmem]

/-- A name refers to exactly the entry that has it. -/
theorem typeNamed?_eq_some_iff (c : Catalog) {name : String} {ref : TypeRef c.structs.length} :
    c.typeNamed? name = some ref ↔ c.RefersTo name ref := by
  rw [refersTo_iff, ← definitionNamed?_eq_some_iff, Tables.definitionNamed?,
    Option.map_eq_some_iff]
  constructor
  · exact fun h => ⟨ref, h, rfl⟩
  · rintro ⟨found, hfound, heq⟩
    rw [hfound, c.distinctNames.entry_injective heq]

/-- Tables without a fault become a catalog. -/
theorem ofTables_of_faultless {t : Tables} (h : t.fault? = none) : ofTables t = .ok ⟨t, h⟩ := by
  unfold ofTables
  split
  · rfl
  · rename_i fault hfault
    rw [h] at hfault
    cases hfault

/-- Tables with a fault are refused for that fault. -/
theorem ofTables_of_fault? {t : Tables} {fault : SchemaError} (h : t.fault? = some fault) :
    ofTables t = .error fault := by
  unfold ofTables
  split
  · rename_i hnone
    rw [h] at hnone
    cases hnone
  · rename_i other hother
    rw [h] at hother
    cases hother
    rfl

/-- Exactly the well-formed tables are accepted, and otherwise the fault is that of the first
violated condition. An accepted catalog holds the tables as they are; a name refers to exactly the
entry that has it, and the parent of a struct is exactly the struct whose name it inherits. -/
theorem ofTables_accepts_wellFormed (t : Tables) :
    ((∃ c, ofTables t = .ok c) ↔ t.WellFormed) ∧
    (∀ fault, ofTables t = .error fault → t.FirstFault fault) ∧
    ∀ c, ofTables t = .ok c → c.toTables = t ∧
      (∀ name ref, c.typeNamed? name = some ref ↔ c.RefersTo name ref) ∧
      ∀ s parent, c.parent? s = some parent ↔
        (c.struct s).inherits = some (c.struct parent).name := by
  rw [← Tables.fault?_eq_none_iff]
  cases hfault : t.fault? with
  | none =>
      rw [ofTables_of_faultless hfault]
      refine ⟨⟨fun _ => rfl, fun _ => ⟨_, rfl⟩⟩, ?_, ?_⟩
      · intro fault h
        cases h
      · intro c h
        cases h
        exact ⟨rfl, fun name ref => typeNamed?_eq_some_iff _,
          fun s parent => parent?_eq_some_iff _⟩
  | some first =>
      rw [ofTables_of_fault? hfault]
      refine ⟨by simp, ?_, ?_⟩
      · intro fault h
        cases h
        exact Tables.firstFault_of_fault? hfault
      · intro c h
        cases h

/-- Tables of every kind, with a struct below another one. -/
def rack : Tables where
  enums := [{ name := "Grade", options := ["low", "high"] }]
  bitfields := [
    { name := "Flags", fields := ["loaded", "cached"], width := 8, cacheOnly := ["cached"] }]
  structs := [{ name := "Weapon", inherits := some "Item" }, { name := "Item" }]

/-- Tables that violate three conditions: a bitfield, a parent, and a struct above itself. -/
def tangle : Tables where
  bitfields := [{ name := "Flags", fields := ["loaded"], width := 8, cacheOnly := ["cached"] }]
  structs := [
    { name := "Weapon", inherits := some "Weapon" },
    { name := "Item", inherits := some "Flags" }]

/-- The first tables are accepted and hold the parent by name; of the others, the bitfield is
reported. -/
theorem rack_accepted_tangle_refused :
    rack.WellFormed ∧
    (∃ c weapon item, ofTables rack = .ok c ∧ c.parent? weapon = some item ∧
      (c.struct weapon).inherits = some (c.struct item).name) ∧
    ofTables tangle = .error (.unknownBit "Flags.cache_only" "Flags" "cached") ∧
    tangle.FirstFault (.unknownBit "Flags.cache_only" "Flags" "cached") := by
  obtain ⟨haccepts, _, hfaithful⟩ := ofTables_accepts_wellFormed rack
  have hrack := ofTables_of_faultless (t := rack) (by decide)
  have htangle : ofTables tangle = .error (.unknownBit "Flags.cache_only" "Flags" "cached") :=
    ofTables_of_fault? (by decide)
  have hparent := (hfaithful _ hrack).2.2 ⟨0, by decide⟩ ⟨1, by decide⟩
  refine ⟨haccepts.1 ⟨_, hrack⟩, ⟨_, _, _, hrack, hparent.2 rfl, rfl⟩, htangle, ?_⟩
  exact (ofTables_accepts_wellFormed tangle).2.1 _ htangle

end Catalog
end TagSchema
