import Mathlib.Data.Set.Card
import TagSchema.Proofs.ExclusionTable

/-!
# Tables of exclusions as maps

Tables are changed by recording exclusions, where an empty one removes an entry, and by taking over
other tables, which never removes anything. Whatever is done to some tables, each of them stands for
a finite map from keys to exclusions that are not empty, and everything that can be asked of a table
is decided by its map.

Main results:

- `ExclusionTable.between_eq_filter`: the entries between two keys.
- `ExclusionTable.Simulates.apply`: what one operation does to tables and to maps.
- `ExclusionTable.simulates_after`: what any operations do to tables and to maps.
- `ExclusionTable.tables_refine_maps`: what the tables hold, list and count after any operations.
-/

namespace TagSchema
namespace ExclusionTable

/-! ## Operations -/

/-- An operation on one of several tables, which are numbered. -/
inductive Operation where
  | insert (target : Nat) (key : ExclusionKey) (exclusion : Exclusion)
  | extend (target source : Nat)
deriving DecidableEq, Repr

/-- The tables after an operation. -/
def Operation.apply (tables : Nat → ExclusionTable) : Operation → Nat → ExclusionTable
  | insert target key exclusion =>
    Function.update tables target ((tables target).insert key exclusion)
  | extend target source => Function.update tables target ((tables target).extend (tables source))

/-- The tables after some operations, all of them empty at first. -/
def tablesAfter (operations : List Operation) : Nat → ExclusionTable :=
  operations.foldl Operation.apply fun _ => {}

/-- The exclusion under each key. -/
abbrev Holding := ExclusionKey → Option Exclusion

/-- The maps after an operation. An empty exclusion leaves nothing under its key; a map that is
taken over decides for its own keys. -/
def Operation.applyToMaps (maps : Nat → Holding) : Operation → Nat → Holding
  | insert target key exclusion =>
    Function.update maps target (Function.update (maps target) key
      (if exclusion.isEmpty then none else some exclusion))
  | extend target source =>
    Function.update maps target fun key => (maps source key).or (maps target key)

/-- The maps after some operations, all of them empty at first. -/
def mapsAfter (operations : List Operation) : Nat → Holding :=
  operations.foldl Operation.applyToMaps fun _ _ => none

/-! ## Well-formed tables -/

/-- A table in the order of its keys, without empty exclusions. -/
structure WellFormed (table : ExclusionTable) : Prop where
  sorted : Sorted table.entries
  nonEmpty : ∀ entry ∈ table.entries, entry.2.isEmpty = false

variable {table other : ExclusionTable} {key : ExclusionKey} {exclusion : Exclusion}

theorem WellFormed.empty : WellFormed {} :=
  ⟨List.Pairwise.nil, fun _ h => absurd h List.not_mem_nil⟩

/-- A table stays well-formed when an entry is put that excludes something. -/
theorem WellFormed.put (h : WellFormed table) (key : ExclusionKey)
    (hexclusion : exclusion.isEmpty = false) :
    WellFormed ⟨putEntry key exclusion table.entries⟩ := by
  refine ⟨h.sorted.putEntry, fun entry hentry => ?_⟩
  rcases mem_of_mem_putEntry hentry with rfl | hentry
  · exact hexclusion
  · exact h.nonEmpty entry hentry

/-- A table stays well-formed by inserting, since what excludes nothing is erased. -/
theorem WellFormed.insert (h : WellFormed table) : WellFormed (table.insert key exclusion) := by
  unfold ExclusionTable.insert
  split
  · exact ⟨h.sorted.filter _, fun entry hentry => h.nonEmpty entry (List.mem_filter.1 hentry).1⟩
  · rename_i hexclusion
    exact h.put key (by simpa using hexclusion)

/-- Taking over a table keeps the order of keys, whatever the order of its entries. -/
theorem WellFormed.extend (h : WellFormed table)
    (hother : ∀ entry ∈ other.entries, entry.2.isEmpty = false) :
    WellFormed (table.extend other) := by
  obtain ⟨more⟩ := other
  unfold ExclusionTable.extend
  induction more generalizing table with
  | nil => exact h
  | cons entry more ih =>
      rw [List.foldl_cons]
      apply ih (h.put entry.1 (hother entry List.mem_cons_self))
      exact fun later hlater => hother later (List.mem_cons_of_mem entry hlater)

/-! ## Simulation -/

/-- Tables in good order in which the same is found as in maps. -/
structure Simulates (tables : Nat → ExclusionTable) (maps : Nat → Holding) : Prop where
  wellFormed : ∀ number, WellFormed (tables number)
  found : ∀ number key, (tables number).get? key = maps number key

/-- Empty tables simulate maps without keys. -/
theorem simulates_empty : Simulates (fun _ => {}) fun _ _ => none :=
  ⟨fun _ => WellFormed.empty, fun _ _ => rfl⟩

/-- An operation does the same to tables and to maps. -/
theorem Simulates.apply {tables : Nat → ExclusionTable} {maps : Nat → Holding}
    (h : Simulates tables maps) (operation : Operation) :
    Simulates (operation.apply tables) (operation.applyToMaps maps) := by
  cases operation with
  | insert target key exclusion =>
      constructor
      · intro number
        by_cases hnumber : number = target
        · subst hnumber
          simpa [Operation.apply] using (h.wellFormed number).insert
        · simpa [Operation.apply, hnumber] using h.wellFormed number
      · intro number other
        by_cases hnumber : number = target
        · subst hnumber
          by_cases hother : other = key
          · subst hother
            cases hempty : exclusion.isEmpty <;>
              simp [Operation.apply, Operation.applyToMaps, get?_insert, Option.filter_some, hempty]
          · simp [Operation.apply, Operation.applyToMaps, get?_insert, hother, h.found]
        · simp [Operation.apply, Operation.applyToMaps, hnumber, h.found]
  | extend target source =>
      have hsource := h.wellFormed source
      constructor
      · intro number
        by_cases hnumber : number = target
        · subst hnumber
          simpa [Operation.apply] using (h.wellFormed number).extend hsource.nonEmpty
        · simpa [Operation.apply, hnumber] using h.wellFormed number
      · intro number key
        by_cases hnumber : number = target
        · subst hnumber
          simp [Operation.apply, Operation.applyToMaps, get?_extend hsource.sorted, h.found]
        · simp [Operation.apply, Operation.applyToMaps, hnumber, h.found]

/-- Tables simulate maps through any operations. -/
theorem Simulates.foldl {tables : Nat → ExclusionTable} {maps : Nat → Holding}
    (h : Simulates tables maps) (operations : List Operation) :
    Simulates (operations.foldl Operation.apply tables)
      (operations.foldl Operation.applyToMaps maps) := by
  induction operations generalizing tables maps with
  | nil => exact h
  | cons operation operations ih => exact ih (h.apply operation)

/-- Any operations do the same to tables and to maps. -/
theorem simulates_after (operations : List Operation) :
    Simulates (tablesAfter operations) (mapsAfter operations) :=
  simulates_empty.foldl operations

/-! ## Ranges of keys -/

/-- What is dropped from the front of a list is all that has a property, when the property ends
somewhere. -/
theorem dropWhile_eq_filter {α : Type} {p : α → Bool} {items : List α}
    (h : items.Pairwise fun first second => p second = true → p first = true) :
    items.dropWhile p = items.filter (!p ·) := by
  induction items with
  | nil => rfl
  | cons item items ih =>
      obtain ⟨hfirst, hrest⟩ := List.pairwise_cons.1 h
      by_cases hitem : p item = true
      · rw [List.dropWhile_cons_of_pos hitem, List.filter_cons_of_neg (by simp [hitem]), ih hrest]
      · have hnone : ∀ later ∈ items, (!p later) = true := by
          intro later hlater
          simpa using fun hp => hitem (hfirst later hlater hp)
        rw [List.dropWhile_cons_of_neg hitem, List.filter_cons_of_pos (by simpa using hitem),
          List.filter_eq_self.2 hnone]

/-- What is taken from the front of a list is all that has a property, when the property ends
somewhere. -/
theorem takeWhile_eq_filter {α : Type} {p : α → Bool} {items : List α}
    (h : items.Pairwise fun first second => p second = true → p first = true) :
    items.takeWhile p = items.filter p := by
  induction items with
  | nil => rfl
  | cons item items ih =>
      obtain ⟨hfirst, hrest⟩ := List.pairwise_cons.1 h
      by_cases hitem : p item = true
      · rw [List.takeWhile_cons_of_pos hitem, List.filter_cons_of_pos hitem, ih hrest]
      · have hnone : ∀ later ∈ items, ¬ p later = true :=
          fun later hlater hp => hitem (hfirst later hlater hp)
        rw [List.takeWhile_cons_of_neg hitem, List.filter_cons_of_neg hitem,
          List.filter_eq_nil_iff.2 hnone]

/-- The entries between two keys of a table in order are those that are not outside. -/
theorem between_eq_filter {entries : List (ExclusionKey × Exclusion)} (h : Sorted entries)
    (first last : ExclusionKey) :
    between first last entries =
      (entries.filter fun entry => !entry.1.before first).filter fun entry =>
        !last.before entry.1 := by
  have hfirst : entries.Pairwise fun a b => b.1.before first = true → a.1.before first = true :=
    h.imp fun hab hb => ExclusionKey.before_trans hab hb
  have hlast : entries.Pairwise fun a b =>
      (!last.before b.1) = true → (!last.before a.1) = true := by
    refine h.imp fun {a b} hab hb => ?_
    rw [Bool.not_eq_true'] at hb ⊢
    by_contra ha
    rw [Bool.not_eq_false] at ha
    simp [ExclusionKey.before_trans ha hab] at hb
  rw [between, dropWhile_eq_filter hfirst, takeWhile_eq_filter (hlast.filter _)]

/-- The keys of a struct stand between its first and its last one. -/
theorem inside_struct_iff (struct : Nat) :
    (key.before ⟨struct, 0⟩ = false ∧ ExclusionKey.before ⟨struct, lastField⟩ key = false) ↔
      key.struct = struct ∧ key.field ≤ lastField := by
  rw [← Bool.not_eq_true, ← Bool.not_eq_true, ExclusionKey.before_iff, ExclusionKey.before_iff]
  dsimp only
  omega

/-! ## Questions to a table -/

/-- The entries of a struct are those of its keys. -/
theorem mem_forStruct_iff (h : Sorted table.entries) {struct field : Nat} :
    (field, exclusion) ∈ table.forStruct struct ↔
      field ≤ lastField ∧ table.get? ⟨struct, field⟩ = some exclusion := by
  rw [get?_eq_some_iff h, forStruct, between_eq_filter h]
  simp only [List.mem_map, List.mem_filter, Bool.not_eq_true', Prod.exists, Prod.mk.injEq,
    and_assoc]
  constructor
  · rintro ⟨key, held, hmem, hfirst, hlast, rfl, rfl⟩
    obtain ⟨rfl, hfield⟩ := (inside_struct_iff struct).1 ⟨hfirst, hlast⟩
    exact ⟨hfield, hmem⟩
  · rintro ⟨hfield, hmem⟩
    obtain ⟨hfirst, hlast⟩ :=
      (@inside_struct_iff ⟨struct, field⟩ struct).2 ⟨rfl, hfield⟩
    exact ⟨_, _, hmem, hfirst, hlast, rfl, rfl⟩

/-- The entries of a struct stand in the order of their positions. -/
theorem forStruct_increasing (h : Sorted table.entries) (struct : Nat) :
    (table.forStruct struct).Pairwise fun first second => first.1 < second.1 := by
  rw [forStruct, between_eq_filter h, List.pairwise_map]
  refine ((h.filter _).filter _).imp_of_mem fun {a b} ha hb hab => ?_
  simp only [List.mem_filter, Bool.not_eq_true', and_assoc] at ha hb
  have hastruct := ((inside_struct_iff struct).1 ha.2).1
  have hbstruct := ((inside_struct_iff struct).1 hb.2).1
  rw [ExclusionKey.before_iff] at hab
  omega

/-- Keys with an entry are counted once. -/
theorem encard_keys (h : Sorted table.entries) :
    {key | (table.get? key).isSome}.encard = table.size := by
  have hnodup : (table.entries.map Prod.fst).Nodup := by
    rw [List.Nodup, List.pairwise_map]
    exact h.imp fun hbefore => ExclusionKey.ne_of_before hbefore
  have hkeys : {key | (table.get? key).isSome} =
      ((table.entries.map Prod.fst).toFinset : Set ExclusionKey) := by
    ext key
    simp only [Set.mem_ofPred_eq, Option.isSome_iff_exists, get?_eq_some_iff h, List.coe_toFinset,
      List.mem_map, Prod.exists, exists_and_right, exists_eq_right]
  rw [hkeys, Set.encard_coe_eq_coe_finsetCard, List.toFinset_card_of_nodup hnodup, List.length_map,
    size]

/-- Tables refine maps: they hold what the maps hold, and everything that can be asked of a table is
decided by what it holds. -/
structure Refines (tables : Nat → ExclusionTable) (maps : Nat → Holding) : Prop where
  /-- No exclusion that is stored is empty. -/
  nonEmpty : ∀ number, ∀ entry ∈ (tables number).entries, entry.2.isEmpty = false
  /-- What is found under a key is what the map holds. -/
  found : ∀ number key, (tables number).get? key = maps number key
  /-- The entries of a struct are those under its keys, in strictly increasing order of
  positions. -/
  listed : ∀ number struct,
    ((tables number).forStruct struct).Pairwise (fun first second => first.1 < second.1) ∧
    ∀ field exclusion, (field, exclusion) ∈ (tables number).forStruct struct ↔
      field ≤ lastField ∧ (tables number).get? ⟨struct, field⟩ = some exclusion
  /-- The size is the number of keys with an entry. -/
  counted : ∀ number,
    {key | ((tables number).get? key).isSome}.encard = (tables number).size
  /-- Two tables are equal exactly when the same is found in both under every key. -/
  decided : ∀ number other, tables number = tables other ↔
    ∀ key, (tables number).get? key = (tables other).get? key

/-- After any operations on any tables, the tables refine maps to which the same was done. -/
theorem tables_refine_maps (operations : List Operation) :
    Refines (tablesAfter operations) (mapsAfter operations) where
  nonEmpty := fun number => ((simulates_after operations).wellFormed number).nonEmpty
  found := (simulates_after operations).found
  listed := by
    intro number struct
    have hsorted := ((simulates_after operations).wellFormed number).sorted
    exact ⟨forStruct_increasing hsorted struct, fun field exclusion => mem_forStruct_iff hsorted⟩
  counted := fun number => encard_keys ((simulates_after operations).wellFormed number).sorted
  decided := by
    intro number other
    have hnumber := ((simulates_after operations).wellFormed number).sorted
    have hother := ((simulates_after operations).wellFormed other).sorted
    exact ⟨fun heq key => by rw [heq], eq_of_get?_eq hnumber hother⟩

end ExclusionTable
end TagSchema
