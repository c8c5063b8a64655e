import Mathlib.Data.List.Sort
import TagSchema.Annotation

/-!
# Tables of exclusions

The entries of a table stand in the strict order of their keys, so every key has at most one entry.
Taking over a table overrides the keys of that table and keeps all others.

Main results:

- `ExclusionTable.eq_of_get?_eq`: a table is determined by what is found in it.
- `ExclusionTable.get?_extend`: what is found after another table is taken over.
- `ExclusionTable.size_extend`: tables without a common key add up.
- `ExclusionTable.get?_extendAll_iff`: what is found after tables without common keys are taken
  over.
- `ExclusionTable.size_extendAll`: how many entries there are then.
- `Annotated.exclusions_ownedBy`: the table of a struct holds entries of that struct only.
- `Annotated.get?_exclusions`: what the table of a struct holds at a position.
-/

namespace TagSchema

/-! ## Keys -/

namespace ExclusionKey

/-- Keys are ordered by struct and then by field. -/
theorem before_iff {a b : ExclusionKey} :
    a.before b = true ↔ a.struct < b.struct ∨ (a.struct = b.struct ∧ a.field < b.field) := by
  simp [before]

theorem ne_of_before {a b : ExclusionKey} (h : a.before b = true) : a ≠ b := by
  rintro rfl
  rw [before_iff] at h
  omega

theorem before_trans {a b c : ExclusionKey} (hab : a.before b = true) (hbc : b.before c = true) :
    a.before c = true := by
  rw [before_iff] at hab hbc ⊢
  omega

/-- Of two different keys one comes before the other. -/
theorem before_of_not_before {a b : ExclusionKey} (hne : a ≠ b) (h : ¬ a.before b = true) :
    b.before a = true := by
  rw [before_iff] at h ⊢
  by_cases hstruct : a.struct = b.struct
  · have hfield : a.field ≠ b.field := by
      intro hfield
      apply hne
      cases a
      cases b
      simp_all
    omega
  · omega

end ExclusionKey

namespace ExclusionTable

variable {key other : ExclusionKey} {exclusion : Exclusion}
  {entries : List (ExclusionKey × Exclusion)} {table : ExclusionTable}

/-! ## Single entries -/

/-- Entries in the strict order of their keys. -/
def Sorted (entries : List (ExclusionKey × Exclusion)) : Prop :=
  entries.Pairwise fun a b => a.1.before b.1 = true

/-- Putting an entry adds no other one. -/
theorem mem_of_mem_putEntry {entry : ExclusionKey × Exclusion}
    (h : entry ∈ putEntry key exclusion entries) : entry = (key, exclusion) ∨ entry ∈ entries := by
  induction entries with
  | nil => exact Or.inl (List.mem_singleton.1 h)
  | cons first rest ih =>
      obtain ⟨other, held⟩ := first
      simp only [putEntry] at h
      split at h
      · exact List.mem_cons.1 h
      · split at h
        · rcases List.mem_cons.1 h with h | h
          · exact Or.inl h
          · exact Or.inr (List.mem_cons_of_mem _ h)
        · rcases List.mem_cons.1 h with h | h
          · exact Or.inr (h ▸ List.mem_cons_self)
          · rcases ih h with h | h
            · exact Or.inl h
            · exact Or.inr (List.mem_cons_of_mem _ h)

/-- Putting an entry keeps the order of keys. -/
theorem Sorted.putEntry (h : Sorted entries) : Sorted (putEntry key exclusion entries) := by
  induction entries with
  | nil => exact List.pairwise_singleton _ _
  | cons first rest ih =>
      obtain ⟨other, held⟩ := first
      obtain ⟨hfirst, hrest⟩ := List.pairwise_cons.1 h
      simp only [ExclusionTable.putEntry]
      split
      · rename_i hbefore
        refine List.pairwise_cons.2 ⟨fun entry hentry => ?_, h⟩
        rcases List.mem_cons.1 hentry with rfl | hentry
        · exact hbefore
        · exact ExclusionKey.before_trans hbefore (hfirst entry hentry)
      · rename_i hnot
        split
        · rename_i heq
          subst heq
          exact List.pairwise_cons.2 ⟨hfirst, hrest⟩
        · rename_i hne
          refine List.pairwise_cons.2 ⟨fun entry hentry => ?_, ih hrest⟩
          rcases mem_of_mem_putEntry hentry with rfl | hentry
          · exact ExclusionKey.before_of_not_before hne hnot
          · exact hfirst entry hentry

/-- The first entry with a key is found. -/
theorem lookup_cons_eq_ite (other key : ExclusionKey) (exclusion : Exclusion)
    (entries : List (ExclusionKey × Exclusion)) :
    ((key, exclusion) :: entries).lookup other =
      if other = key then some exclusion else entries.lookup other := by
  by_cases heq : other = key
  · rw [heq, List.lookup_cons_self, if_pos rfl]
  · rw [List.lookup_cons, beq_false_of_ne heq, if_neg heq]

/-- An entry changes what is found for its own key only. -/
theorem lookup_putEntry (key other : ExclusionKey) (exclusion : Exclusion)
    (entries : List (ExclusionKey × Exclusion)) :
    (putEntry key exclusion entries).lookup other =
      if other = key then some exclusion else entries.lookup other := by
  induction entries with
  | nil => exact lookup_cons_eq_ite other key exclusion []
  | cons first rest ih =>
      obtain ⟨place, held⟩ := first
      simp only [putEntry]
      split
      · rw [lookup_cons_eq_ite]
      · split
        · rename_i heq
          subst heq
          by_cases heq : other = key <;> simp [lookup_cons_eq_ite, heq]
        · rename_i hne
          rw [lookup_cons_eq_ite, lookup_cons_eq_ite, ih]
          by_cases heq : other = key
          · subst heq
            simp [hne]
          · simp [heq]

/-- An entry with a new key is added, and none is replaced. -/
theorem length_putEntry (h : entries.lookup key = none) :
    (putEntry key exclusion entries).length = entries.length + 1 := by
  induction entries with
  | nil => rfl
  | cons first rest ih =>
      obtain ⟨place, held⟩ := first
      rw [lookup_cons_eq_ite] at h
      split at h
      · cases h
      · rename_i hne
        simp only [putEntry, if_neg hne]
        split
        · rfl
        · rw [List.length_cons, List.length_cons, ih h]

/-- A key before all others is not found. -/
theorem lookup_eq_none_of_before (h : ∀ entry ∈ entries, key.before entry.1 = true) :
    entries.lookup key = none := by
  rw [List.lookup_eq_none_iff]
  intro entry hentry
  simpa using ExclusionKey.ne_of_before (h entry hentry)

/-! ## Tables -/

theorem sorted_insert (h : Sorted table.entries) : Sorted (table.insert key exclusion).entries := by
  unfold insert
  split
  · exact h.filter _
  · exact h.putEntry

/-- An erased key is not found, and every other one is found as before. -/
theorem lookup_eraseEntry (key other : ExclusionKey) (entries : List (ExclusionKey × Exclusion)) :
    (eraseEntry key entries).lookup other = if other = key then none else entries.lookup other := by
  induction entries with
  | nil => simp [eraseEntry]
  | cons first rest ih =>
      obtain ⟨place, held⟩ := first
      unfold eraseEntry at ih ⊢
      rw [lookup_cons_eq_ite]
      by_cases hplace : place = key
      · subst hplace
        rw [List.filter_cons_of_neg (by simp), ih]
        by_cases heq : other = place <;> simp [heq]
      · rw [List.filter_cons_of_pos (by simpa using hplace), lookup_cons_eq_ite, ih]
        by_cases heq : other = place
        · subst heq
          simp [hplace]
        · simp [heq]

/-- Recording an exclusion changes what is found for its own key only. -/
theorem get?_insert (table : ExclusionTable) (key other : ExclusionKey) (exclusion : Exclusion) :
    (table.insert key exclusion).get? other =
      if other = key then (some exclusion).filter (!·.isEmpty) else table.get? other := by
  unfold insert get?
  by_cases hempty : exclusion.isEmpty = true
  · simp [hempty, lookup_eraseEntry, Option.filter_some]
  · simp [hempty, lookup_putEntry, Option.filter_some]

theorem mem_of_get? (h : table.get? key = some exclusion) : (key, exclusion) ∈ table.entries := by
  obtain ⟨before, after, hentries, _⟩ := List.lookup_eq_some_iff.1 h
  simp [hentries]

/-- In a table in order, exactly the entries are found. -/
theorem get?_eq_some_iff (h : Sorted table.entries) :
    table.get? key = some exclusion ↔ (key, exclusion) ∈ table.entries := by
  refine ⟨mem_of_get?, fun hmem => ?_⟩
  obtain ⟨before, after, hentries⟩ := List.append_of_mem hmem
  rw [Sorted, hentries, List.pairwise_append] at h
  refine List.lookup_eq_some_iff.2 ⟨before, after, hentries, fun entry hentry => ?_⟩
  have hbefore := h.2.2 entry hentry (key, exclusion) List.mem_cons_self
  simpa using (ExclusionKey.ne_of_before hbefore).symm

/-- Tables in order are equal when the same is found in both for every key. -/
theorem eq_of_get?_eq {other : ExclusionTable} (h : Sorted table.entries)
    (hother : Sorted other.entries) (hget : ∀ key, table.get? key = other.get? key) :
    table = other := by
  have hirrefl : Std.Irrefl fun a b : ExclusionKey × Exclusion => a.1.before b.1 = true :=
    ⟨fun a hbefore => ExclusionKey.ne_of_before hbefore rfl⟩
  have hantisymm : Std.Antisymm fun a b : ExclusionKey × Exclusion => a.1.before b.1 = true :=
    ⟨fun a b hab hba => absurd rfl (ExclusionKey.ne_of_before (ExclusionKey.before_trans hab hba))⟩
  have hentries : table.entries = other.entries := by
    apply List.Pairwise.eq_of_mem_iff h hother
    rintro ⟨key, exclusion⟩
    rw [← get?_eq_some_iff h, ← get?_eq_some_iff hother, hget]
  cases table
  cases other
  exact congrArg mk hentries

/-- A table that is taken over decides for its own keys. -/
theorem get?_extend {more : ExclusionTable} (hmore : Sorted more.entries) (key : ExclusionKey) :
    (table.extend more).get? key = (more.get? key).or (table.get? key) := by
  obtain ⟨more⟩ := more
  simp only [get?, extend] at hmore ⊢
  generalize table.entries = entries
  induction more generalizing entries with
  | nil => simp
  | cons entry more ih =>
      obtain ⟨place, held⟩ := entry
      obtain ⟨hfirst, hrest⟩ := List.pairwise_cons.1 hmore
      rw [List.foldl_cons, ih hrest, lookup_putEntry, lookup_cons_eq_ite]
      by_cases heq : key = place
      · subst heq
        rw [lookup_eq_none_of_before hfirst]
        simp
      · simp [heq]

/-- Tables without a common key add up. -/
theorem size_extend {more : ExclusionTable} (hmore : Sorted more.entries)
    (hdisjoint : ∀ entry ∈ more.entries, table.get? entry.1 = none) :
    (table.extend more).size = table.size + more.size := by
  obtain ⟨more⟩ := more
  simp only [get?, extend, size] at hmore hdisjoint ⊢
  generalize table.entries = entries at hdisjoint ⊢
  induction more generalizing entries with
  | nil => rfl
  | cons entry more ih =>
      obtain ⟨hfirst, hrest⟩ := List.pairwise_cons.1 hmore
      have hnew := hdisjoint entry List.mem_cons_self
      have hkept : ∀ later ∈ more,
          (putEntry entry.1 entry.2 entries).lookup later.1 = none := by
        intro later hlater
        rw [lookup_putEntry, if_neg (ExclusionKey.ne_of_before (hfirst later hlater)).symm]
        exact hdisjoint later (List.mem_cons_of_mem _ hlater)
      rw [List.foldl_cons, ih hrest _ hkept, length_putEntry hnew, List.length_cons]
      omega

/-! ## Tables of structs -/

/-- A table that holds entries of one struct only. -/
structure OwnedBy (struct : Nat) (table : ExclusionTable) : Prop where
  sorted : Sorted table.entries
  owner : ∀ entry ∈ table.entries, entry.1.struct = struct

theorem OwnedBy.empty (struct : Nat) : OwnedBy struct {} :=
  ⟨List.Pairwise.nil, fun _ h => absurd h List.not_mem_nil⟩

/-- A table stays owned by a struct when a field of the struct is inserted. -/
theorem OwnedBy.insert {struct : Nat} (h : OwnedBy struct table) (field : Nat)
    (exclusion : Exclusion) : OwnedBy struct (table.insert ⟨struct, field⟩ exclusion) := by
  refine ⟨sorted_insert h.sorted, fun entry hentry => ?_⟩
  unfold ExclusionTable.insert at hentry
  split at hentry
  · exact h.owner entry (List.mem_filter.1 hentry).1
  · rcases mem_of_mem_putEntry hentry with rfl | hentry
    · rfl
    · exact h.owner entry hentry

/-- Every key that is found in an owned table belongs to its owner. -/
theorem OwnedBy.struct_eq {struct : Nat} (h : OwnedBy struct table)
    (hfound : table.get? key = some exclusion) : key.struct = struct :=
  h.owner _ (mem_of_get? hfound)

/-- Taking over the table of a struct changes nothing for other structs. -/
theorem OwnedBy.get?_extend_of_ne {struct : Nat} {more : ExclusionTable} (h : OwnedBy struct more)
    (hne : key.struct ≠ struct) : (table.extend more).get? key = table.get? key := by
  have hnone : more.get? key = none := by
    rw [Option.eq_none_iff_forall_ne_some]
    exact fun exclusion hfound => hne (h.struct_eq hfound)
  rw [get?_extend h.sorted, hnone, Option.none_or]

section Several

variable {n : Nat} {tables : Fin n → ExclusionTable} {ids : List (Fin n)}

/-- The tables of some structs, taken over one after the other. -/
def extendAll (table : ExclusionTable) (tables : Fin n → ExclusionTable) (ids : List (Fin n)) :
    ExclusionTable :=
  ids.foldl (fun table id => table.extend (tables id)) table

/-- A table has no entries of some structs. -/
def LeavesOut (table : ExclusionTable) (ids : List (Fin n)) : Prop :=
  ∀ id ∈ ids, ∀ key : ExclusionKey, key.struct = id.val → table.get? key = none

/-- Taking over the table of another struct adds no entries of the later ones. -/
theorem LeavesOut.extend {id : Fin n} (h : LeavesOut table (id :: ids)) (hid : id ∉ ids)
    (howned : OwnedBy id (tables id)) : LeavesOut (table.extend (tables id)) ids := by
  intro later hlater key hkey
  have hne : key.struct ≠ id.val := by
    rw [hkey]
    exact fun heq => hid (Fin.ext heq ▸ hlater)
  rw [howned.get?_extend_of_ne hne]
  exact h later (List.mem_cons_of_mem _ hlater) key hkey

/-- In the tables of different structs exactly the entries of each are found. -/
theorem get?_extendAll_iff (htables : ∀ id ∈ ids, OwnedBy id (tables id)) (hids : ids.Nodup)
    (hnew : LeavesOut table ids) :
    (table.extendAll tables ids).get? key = some exclusion ↔
      table.get? key = some exclusion ∨ ∃ id ∈ ids, (tables id).get? key = some exclusion := by
  induction ids generalizing table with
  | nil => simp [extendAll]
  | cons id ids ih =>
      obtain ⟨hid, hids⟩ := List.nodup_cons.1 hids
      have howned := htables id List.mem_cons_self
      have hrest := ih (fun later hlater => htables later (List.mem_cons_of_mem _ hlater)) hids
        (hnew.extend hid howned)
      simp only [extendAll, List.foldl_cons] at hrest ⊢
      rw [hrest, get?_extend howned.sorted]
      simp only [List.mem_cons, exists_eq_or_imp]
      cases hfound : (tables id).get? key with
      | none => simp
      | some held =>
          have hold := hnew id List.mem_cons_self key (howned.struct_eq hfound)
          simp [hold]

/-- The tables of different structs add up. -/
theorem size_extendAll (htables : ∀ id ∈ ids, OwnedBy id (tables id)) (hids : ids.Nodup)
    (hnew : LeavesOut table ids) :
    (table.extendAll tables ids).size =
      table.size + (ids.map fun id => (tables id).size).foldr (· + ·) 0 := by
  induction ids generalizing table with
  | nil => simp [extendAll]
  | cons id ids ih =>
      obtain ⟨hid, hids⟩ := List.nodup_cons.1 hids
      have howned := htables id List.mem_cons_self
      have hrest := ih (fun later hlater => htables later (List.mem_cons_of_mem _ hlater)) hids
        (hnew.extend hid howned)
      have hfirst : (table.extend (tables id)).size = table.size + (tables id).size :=
        size_extend howned.sorted fun entry hentry =>
          hnew id List.mem_cons_self entry.1 (howned.owner entry hentry)
      simp only [extendAll, List.foldl_cons] at hrest ⊢
      rw [hrest, hfirst, List.map_cons, List.foldr_cons]
      omega

end Several

end ExclusionTable

namespace Annotated

/-- The exclusions of an annotated struct have keys of that struct only. -/
theorem exclusions_ownedBy (a : Annotated) : ExclusionTable.OwnedBy a.id a.exclusions := by
  unfold exclusions
  generalize a.fields.zipIdx = fields
  suffices ∀ table, ExclusionTable.OwnedBy a.id table → ExclusionTable.OwnedBy a.id
      (fields.foldl _ table) from this {} (ExclusionTable.OwnedBy.empty a.id)
  induction fields with
  | nil => exact fun table h => h
  | cons first rest ih =>
      intro table htable
      obtain ⟨field, position⟩ := first
      rw [List.foldl_cons]
      apply ih
      cases hexclusion : field.exclusion with
      | none => simpa only [hexclusion] using htable
      | some exclusion => simpa only [hexclusion] using htable.insert position exclusion

/-- What is recorded of a field at a position without an entry. -/
theorem get?_record {struct start : Nat} {table : ExclusionTable} (field : AnnotatedField)
    (hfree : table.get? ⟨struct, start⟩ = none) (position : Nat) :
    (match field.exclusion with
      | some exclusion => table.insert ⟨struct, start⟩ exclusion
      | none => table).get? ⟨struct, position⟩ =
    if position = start then field.exclusion.filter (!·.isEmpty)
    else table.get? ⟨struct, position⟩ := by
  cases field.exclusion with
  | none =>
      by_cases heq : position = start
      · simp [heq, hfree]
      · simp [heq]
  | some exclusion => simp [ExclusionTable.get?_insert]

/-- What is recorded of fields that stand at the positions from some point on. -/
theorem get?_foldl_record {struct start : Nat} {table : ExclusionTable}
    (fields : List AnnotatedField)
    (hfree : ∀ position, start ≤ position → table.get? ⟨struct, position⟩ = none)
    (position : Nat) :
    ((fields.zipIdx start).foldl (fun table (field, position) =>
      match field.exclusion with
      | some exclusion => table.insert ⟨struct, position⟩ exclusion
      | none => table) table).get? ⟨struct, position⟩ =
    if position < start then table.get? ⟨struct, position⟩
    else fields[position - start]?.bind fun field => field.exclusion.filter (!·.isEmpty) := by
  induction fields generalizing start table with
  | nil =>
      by_cases hposition : position < start
      · simp [hposition]
      · simp [hposition, hfree position (by omega)]
  | cons field fields ih =>
      have hrecord := get?_record field (hfree start (Nat.le_refl start))
      rw [List.zipIdx_cons, List.foldl_cons, ih, hrecord]
      · rcases Nat.lt_trichotomy position start with hlt | rfl | hgt
        · have hne : position ≠ start := by omega
          have hlt' : position < start + 1 := by omega
          simp [hlt, hlt', hne]
        · simp
        · have hnot : ¬ position < start := by omega
          have hnot' : ¬ position < start + 1 := by omega
          have hindex : position - start = (position - (start + 1)) + 1 := by omega
          simp [hnot, hnot', hindex]
      · intro later hlater
        have hne : later ≠ start := by omega
        rw [hrecord, if_neg hne]
        exact hfree later (by omega)

/-- The table of a struct holds at a position what the field there may not hold, if that is
anything. -/
theorem get?_exclusions (a : Annotated) (position : Nat) :
    a.exclusions.get? ⟨a.id, position⟩ =
      a.fields[position]?.bind fun field => field.exclusion.filter (!·.isEmpty) := by
  have hempty : ∀ position, 0 ≤ position →
      ({} : ExclusionTable).get? ⟨a.id, position⟩ = none := fun _ _ => rfl
  refine (get?_foldl_record a.fields hempty position).trans ?_
  rw [if_neg (Nat.not_lt_zero position), Nat.sub_zero]

end Annotated
end TagSchema
