import TagSchema.Proofs.Acceptance
import TagSchema.Proofs.AnnotatedFields
import TagSchema.Proofs.ExclusionTable

/-!
# Exclusions are exact

The table of a struct holds, for each field that is an enum or a bitfield, exactly the positions
that the entries of the field name, as far as the entries apply to the struct. It is there unless
such an entry names nothing. So neither the order of entries nor their repetition matters.

Main results:

- `increasing_sortPositions`, `Mask.getLsbD_ofPositions`: sets of positions, as lists and as masks.
- `ResolvedField.holds_exclusionIn`: what a field excludes in a struct.
- `Tables.holds_get?_exclusionTable`: what the table of some fields holds.
- `Catalog.exclusions_are_exact`: the table of the fields of a struct.
-/

namespace TagSchema

/-! ## Sets of positions -/

/-- Inserting a position keeps the others in order, and each of them once. -/
theorem increasing_insertPosition {position : Nat} {positions : List Nat}
    (h : positions.Pairwise (· < ·)) : (insertPosition position positions).Pairwise (· < ·) := by
  induction positions with
  | nil => exact List.pairwise_singleton _ _
  | cons first rest ih =>
      obtain ⟨hfirst, hrest⟩ := List.pairwise_cons.1 h
      simp only [insertPosition]
      split
      · rename_i hlt
        refine List.pairwise_cons.2 ⟨fun other hother => ?_, h⟩
        rcases List.mem_cons.1 hother with rfl | hother
        · exact hlt
        · exact Nat.lt_trans hlt (hfirst other hother)
      split
      · exact h
      · refine List.pairwise_cons.2 ⟨fun other hother => ?_, ih hrest⟩
        rcases mem_insertPosition.1 hother with rfl | hother
        · omega
        · exact hfirst other hother

/-- Sorted positions are in order, and each of them stands once. -/
theorem increasing_sortPositions (positions : List Nat) :
    (sortPositions positions).Pairwise (· < ·) := by
  induction positions with
  | nil => exact List.Pairwise.nil
  | cons first rest ih => exact increasing_insertPosition ih

/-- A mask of positions has the bits at those positions that a mask has room for. -/
theorem Mask.getLsbD_ofPositions {positions : List Nat} {bit : Nat} :
    (Mask.ofPositions positions).getLsbD bit = true ↔ bit < 64 ∧ bit ∈ positions := by
  have hfold : ∀ mask : Mask, (positions.foldl (fun mask position => mask ||| Mask.bit position)
      mask).getLsbD bit = true ↔ mask.getLsbD bit = true ∨ bit < 64 ∧ bit ∈ positions := by
    induction positions with
    | nil => simp
    | cons first rest ih =>
        intro mask
        rw [List.foldl_cons, ih]
        simp only [Mask.bit, BitVec.getLsbD_or, BitVec.getLsbD_twoPow, Bool.or_eq_true,
          Bool.and_eq_true, decide_eq_true_eq, List.mem_cons, or_assoc]
        constructor
        · rintro (h | ⟨hbit, heq⟩ | ⟨hbit, hmem⟩)
          · exact Or.inl h
          · exact Or.inr ⟨heq ▸ hbit, Or.inl heq.symm⟩
          · exact Or.inr ⟨hbit, Or.inr hmem⟩
        · rintro (h | ⟨hbit, heq | hmem⟩)
          · exact Or.inl h
          · exact Or.inr (Or.inl ⟨heq ▸ hbit, heq.symm⟩)
          · exact Or.inr (Or.inr ⟨hbit, hmem⟩)
  exact (hfold 0).trans (by simp)

/-- A mask does not depend on the order and the repetition of positions. -/
theorem Mask.ofPositions_congr {positions others : List Nat}
    (hmem : ∀ position, position ∈ positions ↔ position ∈ others) :
    Mask.ofPositions positions = Mask.ofPositions others := by
  apply BitVec.eq_of_getLsbD_eq
  intro bit _
  rw [Bool.eq_iff_iff, getLsbD_ofPositions, getLsbD_ofPositions, hmem]

/-! ## Entries -/

/-- A name stands at a position of some names and at no earlier one. -/
def FirstAt (names : List String) (name : String) (position : Nat) : Prop :=
  names[position]? = some name ∧ ∀ earlier < position, names[earlier]? ≠ some name

/-- A name is found where it stands first. -/
theorem findIdx?_eq_some_iff_firstAt {names : List String} {name : String} {position : Nat} :
    names.findIdx? (· == name) = some position ↔ FirstAt names name position := by
  rw [List.findIdx?_eq_some_iff_getElem, FirstAt]
  constructor
  · rintro ⟨hposition, hname, hearlier⟩
    refine ⟨by simpa [List.getElem?_eq_getElem hposition] using hname, fun earlier hlt => ?_⟩
    rw [List.getElem?_eq_getElem (Nat.lt_trans hlt hposition)]
    simpa using hearlier earlier hlt
  · rintro ⟨hname, hearlier⟩
    obtain ⟨hposition, hname⟩ := List.getElem?_eq_some_iff.1 hname
    refine ⟨hposition, by simpa using hname, fun earlier hlt => ?_⟩
    have hother := hearlier earlier hlt
    rw [List.getElem?_eq_getElem (Nat.lt_trans hlt hposition)] at hother
    simpa using hother

/-- An entry covers a struct when it has no scope or its scope lists the struct. -/
def ExcludeEntry.Covers (entry : ExcludeEntry) (struct : String) : Prop :=
  ∀ scope, entry.scope = some scope → struct ∈ scope

/-- An entry applies to the structs that its scope covers. -/
theorem ExcludeEntry.appliesTo_iff {entry : ExcludeEntry} {struct : String} :
    entry.appliesTo struct = true ↔ entry.Covers struct := by
  unfold appliesTo Covers
  cases entry.scope <;> simp

/-- An entry of a field that covers a struct has a name that comes first at a position. -/
def FieldDef.ExcludesAt (field : FieldDef) (struct : String) (names : List String)
    (position : Nat) : Prop :=
  ∃ entry ∈ field.exclude, entry.Covers struct ∧ FirstAt names entry.option position

/-- A field excludes the positions that its applicable entries name. -/
theorem FieldDef.excludesAt_iff {field : FieldDef} {struct : String} {names : List String}
    {position : Nat} :
    field.ExcludesAt struct names position ↔ ∃ entry ∈ field.applicable struct,
      names.findIdx? (· == entry.option) = some position := by
  simp only [ExcludesAt, mem_applicable, ExcludeEntry.appliesTo_iff, findIdx?_eq_some_iff_firstAt,
    and_assoc]

section Field

variable {struct : String} {field : FieldDef}

/-- The excluded options are the positions that the entries name, in increasing order. -/
theorem EnumDef.excludedIn_eq_ok {e : EnumDef} {positions : List Nat}
    (h : e.excludedIn struct field = .ok positions) :
    positions.Pairwise (· < ·) ∧
      ∀ position, position ∈ positions ↔ field.ExcludesAt struct e.options position := by
  have hmem := @EnumDef.mem_excludedIn struct field e positions h
  rw [excludedIn, Stepwise.bind_eq_ok_iff] at h
  obtain ⟨found, _, hsorted⟩ := h
  cases hsorted
  exact ⟨increasing_sortPositions found, fun position => by
    rw [hmem, FieldDef.excludesAt_iff]
    rfl⟩

/-- The excluded bits are a mask of the positions that the entries name. -/
theorem BitfieldDef.excludedIn_eq_ok {b : BitfieldDef} {mask : Mask}
    (h : b.excludedIn struct field = .ok mask) :
    ∃ positions, mask = Mask.ofPositions positions ∧
      ∀ position, position ∈ positions ↔ field.ExcludesAt struct b.fields position := by
  rw [excludedIn, Stepwise.bind_eq_ok_iff] at h
  obtain ⟨positions, hpositions, hmask⟩ := h
  cases hmask
  refine ⟨positions, rfl, fun position => ?_⟩
  rw [Stepwise.mem_of_mapM hpositions, FieldDef.excludesAt_iff]
  refine exists_congr fun entry => and_congr_right fun _ => ?_
  rw [position?]
  cases b.fields.findIdx? (· == entry.option) <;> simp

/-- When there is room for all bits, those are set that the entries name. -/
theorem BitfieldDef.getLsbD_excludedIn {b : BitfieldDef} {mask : Mask}
    (h : b.excludedIn struct field = .ok mask) (hbits : b.fields.length ≤ 64) {bit : Nat} :
    mask.getLsbD bit = true ↔ field.ExcludesAt struct b.fields bit := by
  obtain ⟨positions, rfl, hmem⟩ := excludedIn_eq_ok h
  rw [Mask.getLsbD_ofPositions, hmem, and_iff_right_iff_imp]
  rintro ⟨entry, _, _, hfirst, _⟩
  have hlt := (List.getElem?_eq_some_iff.1 hfirst).1
  omega

end Field

/-! ## Fields -/

namespace ResolvedField

/-- What a table holds for a field of a struct: the positions that the entries of the field name, if
the field is an enum or a bitfield and there are any. -/
inductive Holds (field : ResolvedField) (struct : String) : Option Exclusion → Prop
  | options {e : EnumDef} {positions : List Nat} (enumeration : field.type.enum? = some e)
      (nonempty : positions ≠ []) (increasing : positions.Pairwise (· < ·))
      (exact : ∀ position, position ∈ positions ↔
        field.definition.ExcludesAt struct e.options position) :
      Holds field struct (some (.options positions))
  | noOption {e : EnumDef} (enumeration : field.type.enum? = some e)
      (empty : ∀ position, ¬ field.definition.ExcludesAt struct e.options position) :
      Holds field struct none
  | mask {b : BitfieldDef} {bits : Mask} (bitfield : field.type.bitfield? = some b)
      (nonzero : bits ≠ 0)
      (exact : ∀ bit, bits.getLsbD bit = true ↔ field.definition.ExcludesAt struct b.fields bit) :
      Holds field struct (some (.mask bits))
  | noBit {b : BitfieldDef} (bitfield : field.type.bitfield? = some b)
      (empty : ∀ bit, ¬ field.definition.ExcludesAt struct b.fields bit) :
      Holds field struct none
  | other (noEnumeration : field.type.enum? = none) (noBitfield : field.type.bitfield? = none) :
      Holds field struct none

/-- The bits of a field, if it has any, fit into a mask. -/
def BitsFit (field : ResolvedField) : Prop :=
  ∀ b, field.type.bitfield? = some b → b.fields.length ≤ 64

variable {field other : ResolvedField} {struct : String} {found : Option Exclusion}

/-- What a field excludes in a struct is what a table holds for it, unless that is empty. -/
theorem holds_exclusionIn (h : field.exclusionIn struct = .ok found) (hbits : field.BitsFit) :
    field.Holds struct (found.filter (!·.isEmpty)) := by
  unfold exclusionIn at h
  split at h
  · rename_i e henum
    obtain ⟨positions, hpositions, hfound⟩ := Stepwise.bind_eq_ok_iff.1 h
    cases hfound
    obtain ⟨hincreasing, hexact⟩ := EnumDef.excludedIn_eq_ok hpositions
    by_cases hempty : positions = []
    · subst hempty
      exact .noOption henum fun position hposition =>
        absurd ((hexact position).2 hposition) List.not_mem_nil
    · have hkept : (some (Exclusion.options positions)).filter (!·.isEmpty) =
          some (.options positions) := by
        simp [Option.filter_some, Exclusion.isEmpty, hempty]
      rw [hkept]
      exact .options henum hempty hincreasing hexact
  · rename_i henum
    split at h
    · rename_i b hbitfield
      obtain ⟨mask, hmask, hfound⟩ := Stepwise.bind_eq_ok_iff.1 h
      cases hfound
      have hexact : ∀ bit, mask.getLsbD bit = true ↔
          field.definition.ExcludesAt struct b.fields bit := fun bit =>
        BitfieldDef.getLsbD_excludedIn hmask (hbits b hbitfield)
      by_cases hzero : mask = 0
      · subst hzero
        exact .noBit hbitfield fun bit hbit => by simpa using (hexact bit).2 hbit
      · have hkept : (some (Exclusion.mask mask)).filter (!·.isEmpty) = some (.mask mask) := by
          simpa [Option.filter_some, Exclusion.isEmpty] using hzero
        rw [hkept]
        exact .mask hbitfield hzero hexact
    · rename_i hbitfield
      cases h
      exact .other henum hbitfield

/-- Fields of one type with the same entries, in any order and any number. -/
structure SameEntries (field other : ResolvedField) : Prop where
  type : other.type = field.type
  entries : ∀ entry, entry ∈ other.definition.exclude ↔ entry ∈ field.definition.exclude

/-- Fields with the same entries exclude the same positions. -/
theorem SameEntries.excludesAt_iff (h : field.SameEntries other) {names : List String}
    {position : Nat} : other.definition.ExcludesAt struct names position ↔
      field.definition.ExcludesAt struct names position := by
  simp only [FieldDef.ExcludesAt, h.entries]

/-- Fields of one type with the same entries exclude the same, if their entries can be looked up. -/
theorem SameEntries.exclusionIn_eq {found' : Option Exclusion} (h : field.SameEntries other)
    (hfield : field.exclusionIn struct = .ok found)
    (hother : other.exclusionIn struct = .ok found') : found' = found := by
  cases henum : field.type.enum? with
  | some e =>
      simp only [exclusionIn, h.type, henum] at hfield hother
      obtain ⟨positions, hpositions, hfound⟩ := Stepwise.bind_eq_ok_iff.1 hfield
      obtain ⟨positions', hpositions', hfound'⟩ := Stepwise.bind_eq_ok_iff.1 hother
      cases hfound
      cases hfound'
      obtain ⟨hincreasing, hmem⟩ := EnumDef.excludedIn_eq_ok hpositions
      obtain ⟨hincreasing', hmem'⟩ := EnumDef.excludedIn_eq_ok hpositions'
      rw [hincreasing'.eq_of_mem_iff hincreasing fun position => by
        rw [hmem, hmem', h.excludesAt_iff]]
  | none =>
      cases hbitfield : field.type.bitfield? with
      | some b =>
          simp only [exclusionIn, h.type, henum, hbitfield] at hfield hother
          obtain ⟨mask, hmask, hfound⟩ := Stepwise.bind_eq_ok_iff.1 hfield
          obtain ⟨mask', hmask', hfound'⟩ := Stepwise.bind_eq_ok_iff.1 hother
          cases hfound
          cases hfound'
          obtain ⟨positions, rfl, hmem⟩ := BitfieldDef.excludedIn_eq_ok hmask
          obtain ⟨positions', rfl, hmem'⟩ := BitfieldDef.excludedIn_eq_ok hmask'
          rw [Mask.ofPositions_congr fun position => by rw [hmem, hmem', h.excludesAt_iff]]
      | none =>
          simp only [exclusionIn, h.type, henum, hbitfield] at hfield hother
          cases hfield
          cases hother
          rfl

end ResolvedField

/-! ## Tables -/

namespace Tables

variable {t : Tables} {id : t.StructId} {fields others : List ResolvedField}
  {table : ExclusionTable}

/-- The table of what resolved fields may not hold in a struct. -/
def exclusionTable (t : Tables) (id : t.StructId) (fields : List ResolvedField) :
    Except SchemaError ExclusionTable := do
  return Annotated.exclusions ⟨id, ← fields.mapM (·.annotate (t.struct id).name), []⟩

/-- A struct is annotated with the table of its resolved fields. -/
theorem map_exclusions_annotate {registry : Registry} {placeholders : List String}
    (h : t.resolveFields registry (t.flatten placeholders id).fields = .ok fields) :
    (t.annotate registry placeholders id).map Annotated.exclusions =
      t.exclusionTable id fields := by
  simp only [annotate, exclusionTable, h]
  cases hfields : fields.mapM (·.annotate (t.struct id).name) with
  | error fault => simp [bind, Except.bind, Except.map, hfields]
  | ok annotated =>
      simp [bind, Except.bind, Except.map, hfields, pure, Except.pure, Annotated.exclusions]

/-- The table of a struct is there when each of its fields can be annotated. -/
theorem exclusionTable_eq_ok_iff :
    t.exclusionTable id fields = .ok table ↔
      ∃ annotated, fields.mapM (·.annotate (t.struct id).name) = .ok annotated ∧
        table = Annotated.exclusions ⟨id, annotated, []⟩ := by
  rw [exclusionTable, Stepwise.bind_eq_ok_iff]
  refine exists_congr fun annotated => and_congr_right fun _ => ?_
  constructor
  · intro h
    cases h
    rfl
  · rintro rfl
    rfl

/-- There is a table when each entry that applies to the struct names an option or a bit. -/
theorem exists_exclusionTable_iff :
    (∃ table, t.exclusionTable id fields = .ok table) ↔
      ∀ field ∈ fields, field.definition.ExclusionsListed (t.struct id).name field.type := by
  rw [exclusionTable, Stepwise.exists_bind_pure_iff, Stepwise.exists_mapM_iff]
  simp only [ResolvedField.exists_annotate_iff]

/-- A table holds at a position what the field there excludes, if that is anything. -/
theorem get?_exclusionTable (h : t.exclusionTable id fields = .ok table) {position : Nat}
    {field : ResolvedField} (hfield : fields[position]? = some field) :
    ∃ found, field.exclusionIn (t.struct id).name = .ok found ∧
      table.get? ⟨id, position⟩ = found.filter (!·.isEmpty) := by
  obtain ⟨annotated, hannotated, rfl⟩ := exclusionTable_eq_ok_iff.1 h
  obtain ⟨a, ha, hstep⟩ := Stepwise.getElem?_of_mapM hannotated hfield
  refine ⟨a.exclusion, (ResolvedField.annotate_eq_ok hstep).2, ?_⟩
  have hget := Annotated.get?_exclusions ⟨id, annotated, []⟩ position
  simp only [ha, Option.bind_some] at hget
  exact hget

/-- A table holds the exclusions of the struct only, in order. -/
theorem exclusionTable_ownedBy (h : t.exclusionTable id fields = .ok table) :
    ExclusionTable.OwnedBy id table := by
  obtain ⟨annotated, _, rfl⟩ := exclusionTable_eq_ok_iff.1 h
  exact Annotated.exclusions_ownedBy ⟨id, annotated, []⟩

/-- A table has no entries but those of the fields. -/
theorem get?_exclusionTable_eq_none (h : t.exclusionTable id fields = .ok table)
    {key : ExclusionKey} (hkey : key.struct ≠ id ∨ fields.length ≤ key.field) :
    table.get? key = none := by
  by_cases hstruct : key.struct = id
  · obtain ⟨struct, position⟩ := key
    subst hstruct
    obtain ⟨annotated, hannotated, rfl⟩ := exclusionTable_eq_ok_iff.1 h
    have hbeyond : annotated.length ≤ position := by
      rw [Stepwise.length_of_mapM hannotated]
      exact hkey.resolve_left fun hne => hne rfl
    have hget := Annotated.get?_exclusions ⟨id, annotated, []⟩ position
    rw [List.getElem?_eq_none hbeyond] at hget
    exact hget
  · rw [Option.eq_none_iff_forall_ne_some]
    exact fun exclusion hfound => hstruct ((exclusionTable_ownedBy h).struct_eq hfound)

/-- A table holds exactly what the entries of the fields name. -/
theorem holds_get?_exclusionTable (h : t.exclusionTable id fields = .ok table)
    (hbits : ∀ field ∈ fields, field.BitsFit) {position : Nat} {field : ResolvedField}
    (hfield : fields[position]? = some field) :
    field.Holds (t.struct id).name (table.get? ⟨id, position⟩) := by
  obtain ⟨found, hfound, hget⟩ := get?_exclusionTable h hfield
  rw [hget]
  exact ResolvedField.holds_exclusionIn hfound (hbits field (List.mem_of_getElem? hfield))

/-- Fields of the same types with the same entries have a table alike. -/
theorem exists_exclusionTable_congr (h : List.Forall₂ ResolvedField.SameEntries fields others) :
    (∃ table, t.exclusionTable id others = .ok table) ↔
      ∃ table, t.exclusionTable id fields = .ok table := by
  rw [exists_exclusionTable_iff, exists_exclusionTable_iff]
  induction h with
  | nil => rfl
  | cons hfirst _ ih =>
      rw [List.forall_mem_cons, List.forall_mem_cons, ih]
      simp only [FieldDef.ExclusionsListed, hfirst.type, hfirst.entries]

/-- Fields of the same types with the same entries have the same table. -/
theorem exclusionTable_congr (h : List.Forall₂ ResolvedField.SameEntries fields others)
    {table' : ExclusionTable} (hfields : t.exclusionTable id fields = .ok table)
    (hothers : t.exclusionTable id others = .ok table') : table' = table := by
  apply ExclusionTable.eq_of_get?_eq (exclusionTable_ownedBy hothers).sorted
    (exclusionTable_ownedBy hfields).sorted
  rintro ⟨struct, position⟩
  by_cases hkey : struct ≠ id ∨ fields.length ≤ position
  · rw [get?_exclusionTable_eq_none hfields hkey, get?_exclusionTable_eq_none hothers]
    rwa [← h.length_eq]
  · simp only [not_or, not_not, not_le] at hkey
    obtain ⟨rfl, hposition⟩ := hkey
    have hposition' : position < others.length := h.length_eq ▸ hposition
    obtain ⟨found, hfound, hget⟩ :=
      get?_exclusionTable hfields (List.getElem?_eq_getElem hposition)
    obtain ⟨found', hfound', hget'⟩ :=
      get?_exclusionTable hothers (List.getElem?_eq_getElem hposition')
    have hsame : fields[position].SameEntries others[position] :=
      (List.forall₂_iff_get.1 h).2 position hposition hposition'
    rw [hget, hget', hsame.exclusionIn_eq hfound hfound']

end Tables

/-! ## Bitfields of a catalog -/

namespace FieldType

theorem bitfield?_inNativeOrder (type : FieldType) :
    type.inNativeOrder.bitfield? = type.bitfield? := by
  induction type with
  | named ident kind native => cases kind <;> rfl
  | flagged inner ih => exact ih
  | _ => rfl

theorem bitfield?_repeated (type : FieldType) (count : Nat) :
    (type.repeated count).bitfield? = type.bitfield? := by
  unfold repeated
  split <;> rfl

end FieldType

/-- The wrappers of a field keep the bitfield that the base names. -/
theorem FieldDef.bitfield?_wrap (field : FieldDef) (base : FieldType) :
    (field.wrap base).bitfield? = base.bitfield? := by
  have hflagged : (if field.flagged then .flagged base else base).bitfield? = base.bitfield? := by
    split <;> rfl
  unfold wrap
  rw [FieldType.bitfield?_repeated, ← hflagged]
  by_cases hcompound : field.compound = true
  · simp only [hcompound, if_true]
    split
    · exact FieldType.bitfield?_inNativeOrder _
    · exact FieldType.bitfield?_inNativeOrder _
  · simp only [hcompound]
    split <;> rfl

namespace Tables

variable {t : Tables} {registry : Registry}

/-- A name that stands for a bitfield is defined as one. -/
theorem mem_bitfields_of_namedKind? {name : String} {b : BitfieldDef}
    (h : t.namedKind? registry name = some (.bitfield b)) : b ∈ t.bitfields := by
  unfold namedKind? typeNamed? at h
  split at h
  · cases h
  · rename_i found hfound
    cases h
    split at hfound
    · cases hfound
    · split at hfound
      · rename_i other hother
        cases hfound
        exact List.mem_of_find?_eq_some hother
      · obtain ⟨id, _, hid⟩ := Option.map_eq_some_iff.1 hfound
        cases hid
  · cases h
  · obtain ⟨valueClass, _, hclass⟩ := Option.map_eq_some_iff.1 h
    cases hclass

/-- The bitfield of a field is one of the tables. -/
theorem mem_bitfields_of_resolveType {owner : String} {field : FieldDef} {type : FieldType}
    {b : BitfieldDef} (h : t.resolveType registry owner field = .ok type)
    (hb : type.bitfield? = some b) : b ∈ t.bitfields := by
  have hwrap : ∀ base, field.wrap base = type → base.bitfield? = some b := by
    rintro base rfl
    rwa [FieldDef.bitfield?_wrap] at hb
  unfold resolveType at h
  split at h
  · cases hwrap _ (Except.ok.inj h)
  · cases hwrap _ (Except.ok.inj h)
  · rw [← Except.ok.inj h, FieldType.bitfield?_repeated] at hb
    cases hb
  · split at h
    · cases h
    · split at h
      · obtain ⟨ident, _, htype⟩ := Stepwise.bind_eq_ok_iff.1 h
        cases hwrap _ (Except.ok.inj htype)
      · cases h
  · cases hwrap _ (Except.ok.inj h)
  · cases h
  · split at h
    · rename_i kind hkind
      obtain ⟨ident, _, htype⟩ := Stepwise.bind_eq_ok_iff.1 h
      have hbase := hwrap _ (Except.ok.inj htype)
      cases kind with
      | bitfield other =>
          cases hbase
          exact mem_bitfields_of_namedKind? hkind
      | _ => cases hbase
    · cases h

end Tables

namespace Catalog

variable (c : Catalog) {registry : Registry} {placeholders : List String} {id : c.StructId}
  {fields : List ResolvedField}

/-- The bits of every bitfield of a catalog fit its width. -/
theorem bitfieldFits {b : BitfieldDef} (hb : b ∈ c.bitfields) : Tables.BitfieldFits b := by
  have hfault := c.faultless
  simp only [Tables.fault?, Option.or_eq_none_iff] at hfault
  exact Tables.bitfieldFault?_eq_none_iff.1 hfault.2.1 b hb

/-- No bitfield of a catalog has more than 64 bits. -/
theorem length_bits_le {b : BitfieldDef} (hb : b ∈ c.bitfields) : b.fields.length ≤ 64 := by
  obtain ⟨hwidth, hlength⟩ := (c.bitfieldFits hb).1
  omega

/-- The bits of a field of a catalog fit into a mask. -/
theorem bitsFit_of_resolveFields
    (h : c.resolveFields registry (c.flatten placeholders id).fields = .ok fields) :
    ∀ field ∈ fields, field.BitsFit := by
  intro field hfield b hb
  obtain ⟨flat, _, hresolved⟩ := (Stepwise.mem_of_mapM h).1 hfield
  exact c.length_bits_le
    (Tables.mem_bitfields_of_resolveType (Tables.resolveField_eq_ok hresolved).2 hb)

/-- Exclusions are exact. When the fields of a struct can be resolved, the struct is annotated with
their table. It fails to exist exactly when an entry that covers the struct, of a field that is an
enum or a bitfield, names no option or bit. Otherwise it holds at the position of each field exactly
the first positions of what such entries name, and nothing else. Fields of the same types with the
same entries, in any order and any number, have the same table. -/
theorem exclusions_are_exact
    (h : c.resolveFields registry (c.flatten placeholders id).fields = .ok fields) :
    (c.annotate registry placeholders id).map Annotated.exclusions = c.exclusionTable id fields ∧
    ((∃ fault, c.exclusionTable id fields = .error fault) ↔
      ∃ field ∈ fields, ∃ entry ∈ field.definition.exclude, entry.Covers (c.struct id).name ∧
        ((∃ e, field.type.enum? = some e ∧ entry.option ∉ e.options) ∨
          ∃ b, field.type.bitfield? = some b ∧ entry.option ∉ b.fields)) ∧
    (∀ table, c.exclusionTable id fields = .ok table →
      (∀ position, ∀ field : ResolvedField, fields[position]? = some field →
        field.Holds (c.struct id).name (table.get? ⟨id, position⟩)) ∧
      ∀ key : ExclusionKey, key.struct ≠ id ∨ fields.length ≤ key.field → table.get? key = none) ∧
    ∀ others, List.Forall₂ ResolvedField.SameEntries fields others →
      ((∃ fault, c.exclusionTable id others = .error fault) ↔
        ∃ fault, c.exclusionTable id fields = .error fault) ∧
      ∀ table, c.exclusionTable id others = .ok table ↔ c.exclusionTable id fields = .ok table := by
  refine ⟨Tables.map_exclusions_annotate h, ?_, fun table htable => ⟨fun position field => ?_, ?_⟩,
    fun others hothers => ⟨?_, fun table => ?_⟩⟩
  · rw [Stepwise.exists_error_iff, Tables.exists_exclusionTable_iff]
    simp only [FieldDef.ExclusionsListed, ExcludeEntry.appliesTo_iff, not_forall, not_and_or,
      exists_prop]
  · exact Tables.holds_get?_exclusionTable htable (c.bitsFit_of_resolveFields h)
  · exact fun key => Tables.get?_exclusionTable_eq_none htable
  · rw [Stepwise.exists_error_iff, Stepwise.exists_error_iff,
      Tables.exists_exclusionTable_congr hothers]
  · constructor
    · intro htable
      obtain ⟨table', htable'⟩ := (Tables.exists_exclusionTable_congr hothers).1 ⟨table, htable⟩
      rw [Tables.exclusionTable_congr hothers htable' htable, htable']
    · intro htable
      obtain ⟨table', htable'⟩ := (Tables.exists_exclusionTable_congr hothers).2 ⟨table, htable⟩
      rw [htable', Tables.exclusionTable_congr hothers htable htable']

/-- A struct and its parent. The parent lists an option that does not exist, for itself only; its
child excludes an option that is declared twice, and both exclude bits, one of them twice. -/
def quiver : Catalog where
  enums := [{ name := "Grade", options := ["low", "high", "low"] }]
  bitfields := [{ name := "Marks", fields := ["worn", "blessed", "cursed"], width := 8 }]
  structs := [
    { name := "Arrow", inherits := some "Item" },
    { name := "Item",
      fields := [
        { memberName := "grade", type := .named "Grade",
          exclude := [{ option := "none", scope := some ["Item"] },
            { option := "low", scope := some ["Bow", "Arrow"] }] },
        { memberName := "weight", type := .float, exclude := [{ option := "heavy" }] },
        { memberName := "marks", type := .named "Marks", count := 2,
          exclude := [{ option := "cursed" }, { option := "worn" }, { option := "cursed" }] }] }]
  faultless := by decide

/-- The child has the table that its entries name, in any order, and the parent has none. -/
theorem quiver_exclusions_are_exact :
    ∃ (arrow item : quiver.StructId) (fields : List ResolvedField) (table : ExclusionTable),
      quiver.parent? arrow = some item ∧
      quiver.resolveFields .engine (quiver.flatten [] arrow).fields = .ok fields ∧
      quiver.exclusionTable arrow fields = .ok table ∧
      table.entries = [(⟨0, 0⟩, .options [0]), (⟨0, 2⟩, .mask 5)] ∧
      quiver.exclusionTable arrow (fields.map fun field => { field with
        definition.exclude := field.definition.exclude.reverse ++ field.definition.exclude }) =
          .ok table ∧
      ∃ fault, quiver.exclusionTable item fields = .error fault := by
  let arrow : quiver.StructId := ⟨0, by decide⟩
  let item : quiver.StructId := ⟨1, by decide⟩
  obtain ⟨fields, hfields⟩ := Stepwise.exists_ok_of_isOk (show
    (quiver.resolveFields .engine (quiver.flatten [] arrow).fields).isOk = true by decide +kernel)
  have hentries : (quiver.resolveFields .engine (quiver.flatten [] arrow).fields >>=
      quiver.exclusionTable arrow).map (·.entries) =
        .ok [(⟨0, 0⟩, .options [0]), (⟨0, 2⟩, .mask 5)] := by decide +kernel
  have hfault : (quiver.resolveFields .engine (quiver.flatten [] arrow).fields >>=
      quiver.exclusionTable item).isOk = false := by decide +kernel
  rw [hfields] at hentries hfault
  have hrepeated : List.Forall₂ ResolvedField.SameEntries fields (fields.map fun field =>
      { field with
        definition.exclude := field.definition.exclude.reverse ++ field.definition.exclude }) := by
    rw [List.forall₂_map_right_iff, List.forall₂_same]
    exact fun field _ => ⟨rfl, by simp⟩
  obtain ⟨table, htable⟩ : ∃ table, quiver.exclusionTable arrow fields = .ok table := by
    cases htable : quiver.exclusionTable arrow fields with
    | ok table => exact ⟨table, rfl⟩
    | error fault => simp [bind, Except.bind, Except.map, htable] at hentries
  obtain ⟨_, _, _, hsame⟩ := exclusions_are_exact quiver hfields
  refine ⟨arrow, item, fields, table, by decide +kernel, hfields, htable, ?_,
    ((hsame _ hrepeated).2 table).2 htable, Stepwise.exists_error_of_isOk hfault⟩
  simpa [bind, Except.bind, Except.map, htable] using hentries

end Catalog
end TagSchema
