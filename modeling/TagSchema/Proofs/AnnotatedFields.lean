import TagSchema.Annotation
import TagSchema.Proofs.Stepwise

/-!
# Annotated fields

What it takes for a field to be ready for emission, and what its annotation says. A field is
resolved by itself, and its exclusions are looked up for the struct that it ends up in.

Main results:

- `Tables.exists_resolveField_iff`: the fields that can be resolved.
- `ResolvedField.exists_annotate_iff`: the fields whose exclusions can be looked up.
- `ResolvedField.mem_excludedOptions`: the options that a field may not hold.
- `Tables.mem_annotated_iff`: the fields of an annotated struct.
-/

namespace TagSchema

/-- A name is accepted when it can be spelled as an identifier. -/
theorem exists_requireIdentifier_iff {name : String} :
    (∃ ident, requireIdentifier name = .ok ident) ↔ (Text.identifier? name).isSome = true := by
  unfold requireIdentifier
  cases Text.identifier? name <;> simp

/-! ## Exclusions -/

theorem mem_insertPosition {position other : Nat} {positions : List Nat} :
    other ∈ insertPosition position positions ↔ other = position ∨ other ∈ positions := by
  induction positions with
  | nil => simp [insertPosition]
  | cons first rest ih =>
      simp only [insertPosition]
      split
      · rw [List.mem_cons]
      split
      · rename_i heq
        simp [heq]
      · rw [List.mem_cons, ih, List.mem_cons, or_left_comm]

/-- Sorting keeps the positions. -/
theorem mem_sortPositions {position : Nat} {positions : List Nat} :
    position ∈ sortPositions positions ↔ position ∈ positions := by
  induction positions with
  | nil => rfl
  | cons first rest ih =>
      rw [sortPositions, List.foldr_cons, mem_insertPosition, ← sortPositions, ih, List.mem_cons]

theorem mem_applicable {field : FieldDef} {struct : String} {entry : ExcludeEntry} :
    entry ∈ field.applicable struct ↔ entry ∈ field.exclude ∧ entry.appliesTo struct = true := by
  simp [FieldDef.applicable]

/-- A name has a position exactly when it is listed. -/
theorem exists_findIdx?_iff {name : String} {names : List String} :
    (∃ position, names.findIdx? (· == name) = some position) ↔ name ∈ names := by
  rw [← Option.isSome_iff_exists, List.findIdx?_isSome]
  simp

/-- Positions of names can be looked up when each name is listed. -/
theorem exists_positions_iff {entries : List ExcludeEntry} {names : List String}
    {fault : ExcludeEntry → SchemaError} :
    (∃ positions, (entries.mapM fun entry =>
      match names.findIdx? (· == entry.option) with
      | some position => Except.ok position
      | none => .error (fault entry)) = .ok positions) ↔
      ∀ entry ∈ entries, entry.option ∈ names := by
  rw [Stepwise.exists_mapM_iff]
  simp only [← exists_findIdx?_iff]
  refine forall_congr' fun entry => imp_congr_right fun _ => exists_congr fun position => ?_
  cases names.findIdx? (· == entry.option) <;> simp

variable {struct : String} {field : FieldDef}

/-- The excluded options of an enum can be looked up when each of them is listed. -/
theorem EnumDef.exists_excludedIn_iff {e : EnumDef} :
    (∃ positions, e.excludedIn struct field = .ok positions) ↔
      ∀ entry ∈ field.applicable struct, entry.option ∈ e.options := by
  rw [← exists_positions_iff, excludedIn, Stepwise.exists_bind_pure_iff]
  rfl

/-- The excluded bits of a bitfield can be looked up when each of them is listed. -/
theorem BitfieldDef.exists_excludedIn_iff {b : BitfieldDef} :
    (∃ mask, b.excludedIn struct field = .ok mask) ↔
      ∀ entry ∈ field.applicable struct, entry.option ∈ b.fields := by
  rw [← exists_positions_iff, excludedIn, Stepwise.exists_bind_pure_iff]
  rfl

/-- The excluded options are the positions that the entries name. -/
theorem EnumDef.mem_excludedIn {e : EnumDef} {positions : List Nat}
    (h : e.excludedIn struct field = .ok positions) {position : Nat} :
    position ∈ positions ↔
      ∃ entry ∈ field.applicable struct, e.position? entry.option = some position := by
  rw [excludedIn, Stepwise.bind_eq_ok_iff] at h
  obtain ⟨found, hfound, hsorted⟩ := h
  cases hsorted
  rw [mem_sortPositions, Stepwise.mem_of_mapM hfound]
  refine exists_congr fun entry => and_congr_right fun _ => ?_
  cases e.position? entry.option <;> simp

/-! ## Fields -/

namespace FieldType

/-- No type is both an enum and a bitfield. -/
theorem bitfield?_of_enum? {type : FieldType} {e : EnumDef} (h : type.enum? = some e) :
    type.bitfield? = none := by
  unfold enum? at h
  unfold bitfield?
  split at h
  · rename_i hbase
    rw [hbase]
  · cases h

end FieldType

/-- Each entry that applies to the struct names an option or a bit of the type, if the type has
any. -/
def FieldDef.ExclusionsListed (field : FieldDef) (struct : String) (type : FieldType) : Prop :=
  ∀ entry ∈ field.exclude, entry.appliesTo struct = true →
    (∀ e, type.enum? = some e → entry.option ∈ e.options) ∧
      ∀ b, type.bitfield? = some b → entry.option ∈ b.fields

/-- An enum without wrappers has an option that no entry which applies to the struct excludes. -/
def FieldDef.LeavesOption (field : FieldDef) (struct : String) (type : FieldType) : Prop :=
  ∀ e, type.enum? = some e → type.isPlain = true →
    ∃ position < e.options.length, ∀ entry ∈ field.exclude, entry.appliesTo struct = true →
      e.position? entry.option ≠ some position

namespace ResolvedField

variable {resolved : ResolvedField} {annotated : AnnotatedField}

/-- The exclusions of a field can be looked up when each of them is listed. -/
theorem exists_annotate_iff :
    (∃ annotated, resolved.annotate struct = .ok annotated) ↔
      resolved.definition.ExclusionsListed struct resolved.type := by
  have hentries : (∃ annotated, resolved.annotate struct = .ok annotated) ↔
      ∃ exclusion, resolved.exclusionIn struct = .ok exclusion := by
    rw [annotate, Stepwise.exists_bind_pure_iff]
  rw [hentries, exclusionIn]
  unfold FieldDef.ExclusionsListed
  simp only [← and_imp, ← mem_applicable]
  cases henum : resolved.type.enum? with
  | some e =>
      simp only [FieldType.bitfield?_of_enum? henum, Option.some.injEq, forall_eq', reduceCtorEq,
        IsEmpty.forall_iff, implies_true, and_true]
      rw [← EnumDef.exists_excludedIn_iff, Stepwise.exists_bind_pure_iff]
  | none =>
      cases hbitfield : resolved.type.bitfield? with
      | some b =>
          simp only [Option.some.injEq, forall_eq', reduceCtorEq, IsEmpty.forall_iff, implies_true,
            true_and]
          rw [← BitfieldDef.exists_excludedIn_iff, Stepwise.exists_bind_pure_iff]
      | none => simp

/-- A field is annotated with what it may not hold. -/
theorem annotate_eq_ok (h : resolved.annotate struct = .ok annotated) :
    annotated.toResolvedField = resolved ∧
      resolved.exclusionIn struct = .ok annotated.exclusion := by
  rw [annotate, Stepwise.bind_eq_ok_iff] at h
  obtain ⟨exclusion, hexclusion, hannotated⟩ := h
  cases hannotated
  exact ⟨rfl, hexclusion⟩

/-- The options that a field may not hold are those that its entries name. -/
theorem mem_excludedOptions (h : resolved.annotate struct = .ok annotated) {e : EnumDef}
    (henum : resolved.type.enum? = some e) {position : Nat} :
    position ∈ annotated.excludedOptions ↔
      ∃ entry ∈ resolved.definition.applicable struct,
        e.position? entry.option = some position := by
  obtain ⟨_, hexclusion⟩ := annotate_eq_ok h
  simp only [exclusionIn, henum] at hexclusion
  obtain ⟨positions, hpositions, hoptions⟩ := Stepwise.bind_eq_ok_iff.1 hexclusion
  rw [← EnumDef.mem_excludedIn hpositions, AnnotatedField.excludedOptions,
    ← Except.ok.inj hoptions]
  rfl

end ResolvedField

/-! ## Structs -/

namespace Tables

variable {t : Tables} {registry : Registry} {flat : FlatField} {resolved : ResolvedField}

/-- An initial value is accepted when it fits the type, or when there is none. -/
theorem exists_resolveInitial_iff {owner : String} {type : FieldType} :
    (∃ initial, field.resolveInitial owner type = .ok initial) ↔
      ∀ value, field.initial = some value → type.fits value = true := by
  unfold FieldDef.resolveInitial
  cases field.initial with
  | none => simp
  | some value => by_cases hfits : type.fits value = true <;> simp [hfits]

/-- A field can be resolved when it has a type, an identifier and no default that does not fit. -/
theorem exists_resolveField_iff :
    (∃ resolved, t.resolveField registry flat = .ok resolved) ↔
      ∃ type, t.resolveType registry flat.owner flat.field = .ok type ∧
        (Text.identifier? flat.field.memberName).isSome = true ∧
        ∀ value, flat.field.initial = some value → type.fits value = true := by
  simp only [resolveField, Stepwise.exists_bind_iff]
  constructor
  · rintro ⟨type, htype, ident, hident, initial, hinitial, _⟩
    exact ⟨type, htype, exists_requireIdentifier_iff.1 ⟨ident, hident⟩,
      exists_resolveInitial_iff.1 ⟨initial, hinitial⟩⟩
  · rintro ⟨type, htype, hident, hfits⟩
    obtain ⟨ident, hident⟩ := exists_requireIdentifier_iff.2 hident
    obtain ⟨initial, hinitial⟩ := exists_resolveInitial_iff.2 hfits
    exact ⟨type, htype, ident, hident, initial, hinitial, _, rfl⟩

/-- A resolved field keeps its declaration. -/
theorem resolveField_eq_ok (h : t.resolveField registry flat = .ok resolved) :
    resolved.definition = flat.field ∧
      t.resolveType registry flat.owner flat.field = .ok resolved.type := by
  simp only [resolveField, Stepwise.bind_eq_ok_iff] at h
  obtain ⟨type, htype, _, _, _, _, hresolved⟩ := h
  cases hresolved
  exact ⟨rfl, htype⟩

/-- A field of a struct is resolved and annotated. -/
def Annotates (t : Tables) (registry : Registry) (struct : String) (flat : FlatField)
    (annotated : AnnotatedField) : Prop :=
  ∃ resolved, t.resolveField registry flat = .ok resolved ∧
    resolved.annotate struct = .ok annotated

namespace Annotates

variable {annotated : AnnotatedField} (h : t.Annotates registry struct flat annotated)

include h

theorem definition : annotated.definition = flat.field := by
  obtain ⟨resolved, hresolved, hannotated⟩ := h
  rw [← (resolveField_eq_ok hresolved).1, ← (ResolvedField.annotate_eq_ok hannotated).1]

theorem type : t.resolveType registry flat.owner flat.field = .ok annotated.type := by
  obtain ⟨resolved, hresolved, hannotated⟩ := h
  rw [(resolveField_eq_ok hresolved).2, ← (ResolvedField.annotate_eq_ok hannotated).1]

/-- The excluded options are those that an applicable entry names. -/
theorem mem_excludedOptions {e : EnumDef} (henum : annotated.type.enum? = some e)
    {position : Nat} :
    position ∈ annotated.excludedOptions ↔
      ∃ entry ∈ flat.field.applicable struct, e.position? entry.option = some position := by
  obtain ⟨resolved, hresolved, hannotated⟩ := h
  rw [(ResolvedField.annotate_eq_ok hannotated).1] at henum
  rw [ResolvedField.mem_excludedOptions hannotated henum, (resolveField_eq_ok hresolved).1]

end Annotates

/-- A field can be annotated when it can be resolved and each of its exclusions is listed. -/
theorem exists_annotates_iff :
    (∃ annotated, t.Annotates registry struct flat annotated) ↔
      ∃ type, t.resolveType registry flat.owner flat.field = .ok type ∧
        (Text.identifier? flat.field.memberName).isSome = true ∧
        (∀ value, flat.field.initial = some value → type.fits value = true) ∧
        flat.field.ExclusionsListed struct type := by
  constructor
  · rintro ⟨annotated, resolved, hresolved, hannotated⟩
    obtain ⟨hdefinition, htype⟩ := resolveField_eq_ok hresolved
    obtain ⟨type, hsame, hident, hfits⟩ := exists_resolveField_iff.1 ⟨resolved, hresolved⟩
    rw [htype] at hsame
    cases hsame
    have hlisted := ResolvedField.exists_annotate_iff.1 ⟨annotated, hannotated⟩
    rw [hdefinition] at hlisted
    exact ⟨resolved.type, htype, hident, hfits, hlisted⟩
  · rintro ⟨type, htype, hident, hfits, hlisted⟩
    obtain ⟨resolved, hresolved⟩ := exists_resolveField_iff.2 ⟨type, htype, hident, hfits⟩
    obtain ⟨hdefinition, hsame⟩ := resolveField_eq_ok hresolved
    rw [htype] at hsame
    cases hsame
    rw [← hdefinition] at hlisted
    obtain ⟨annotated, hannotated⟩ := ResolvedField.exists_annotate_iff.2 hlisted
    exact ⟨annotated, resolved, hresolved, hannotated⟩

variable {placeholders : List String} {id : t.StructId}

/-- The fields of an annotated struct are the annotated fields that it exposes. -/
theorem mem_annotated_iff {annotated : Annotated}
    (h : t.annotate registry placeholders id = .ok annotated) {field : AnnotatedField} :
    field ∈ annotated.fields ↔ ∃ flat ∈ (t.flatten placeholders id).fields,
      t.Annotates registry (t.struct id).name flat field := by
  simp only [annotate, Stepwise.bind_eq_ok_iff] at h
  obtain ⟨resolved, hresolved, fields, hfields, hannotated⟩ := h
  cases hannotated
  rw [Stepwise.mem_of_mapM hfields]
  simp only [Stepwise.mem_of_mapM hresolved]
  constructor
  · rintro ⟨held, ⟨flat, hflat, hheld⟩, hfield⟩
    exact ⟨flat, hflat, held, hheld, hfield⟩
  · rintro ⟨flat, hflat, held, hheld, hfield⟩
    exact ⟨held, ⟨flat, hflat, hheld⟩, hfield⟩

/-- A struct can be annotated when each field that it exposes can. -/
theorem exists_annotate_iff :
    (∃ annotated, t.annotate registry placeholders id = .ok annotated) ↔
      ∀ flat ∈ (t.flatten placeholders id).fields,
        ∃ field, t.Annotates registry (t.struct id).name flat field := by
  simp only [annotate, Stepwise.exists_bind_iff]
  constructor
  · rintro ⟨resolved, hresolved, fields, hfields, _⟩ flat hflat
    obtain ⟨held, hheld⟩ := Stepwise.exists_mapM_iff.1 ⟨resolved, hresolved⟩ flat hflat
    have hmem := (Stepwise.mem_of_mapM hresolved).2 ⟨flat, hflat, hheld⟩
    obtain ⟨field, hfield⟩ := Stepwise.exists_mapM_iff.1 ⟨fields, hfields⟩ held hmem
    exact ⟨field, held, hheld, hfield⟩
  · intro hall
    obtain ⟨resolved, hresolved⟩ := Stepwise.exists_mapM_iff.2 fun flat hflat => by
      obtain ⟨_, held, hheld, _⟩ := hall flat hflat
      exact ⟨held, hheld⟩
    have hannotated : ∀ held ∈ resolved, ∃ field, held.annotate (t.struct id).name = .ok field := by
      intro held hheld
      obtain ⟨flat, hflat, hflat'⟩ := (Stepwise.mem_of_mapM hresolved).1 hheld
      obtain ⟨field, other, hother, hfield⟩ := hall flat hflat
      rw [hflat'] at hother
      cases hother
      exact ⟨field, hfield⟩
    obtain ⟨fields, hfields⟩ := Stepwise.exists_mapM_iff.2 hannotated
    exact ⟨resolved, hresolved, fields, hfields, _, rfl⟩

end Tables
end TagSchema
