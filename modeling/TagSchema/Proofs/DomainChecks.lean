import Mathlib.Order.Bounds.Basic
import TagSchema.Proofs.Emittable
import TagSchema.Proofs.Inheritance
import TagSchema.Proofs.Masks

/-!
# Checks of domains

The generated check of an enum or a bitfield without wrappers flags the values that the field may
not hold and can reset them. What it flags, what it resets to and what an editor offers all come
from one side table, and are read here from the code that is written.

Main results:

- `Annotated.excludedOptions_exclusions`, `Annotated.excludedMask_exclusions`: the side table of a
  struct tells what its fields may not hold.
- `Emission.Validation.domains_eq_ok`: the code of a check is put together from fields.
- `Emission.Validation.checksOptions_enumGuard`, `Emission.Validation.checksBits_allowedMask`: what
  the check of a field flags and resets to.
- `Emission.Value.listed_accessorEntry`, `Emission.Value.views_view`: what an editor is told.
- `Generator.validator_agrees_with_editor`: checks, resets and the editor view of a struct.
-/

namespace TagSchema

open Emission Literal

/-! ## The side table -/

/-- An empty exclusion reads like none, so it does not matter that it has no entry. -/
theorem Exclusion.getD_filter_isEmpty {α : Type} {read : Exclusion → Option α} {nothing : α}
    (hread : ∀ exclusion : Exclusion, exclusion.isEmpty = true →
      (read exclusion).getD nothing = nothing) (found : Option Exclusion) :
    ((found.filter (!·.isEmpty)).bind read).getD nothing = (found.bind read).getD nothing := by
  cases found with
  | none => rfl
  | some exclusion =>
      by_cases hempty : exclusion.isEmpty = true
      · simp [Option.filter_some, hempty, hread exclusion hempty]
      · simp [Option.filter_some, hempty]

namespace Annotated

variable {a : Annotated} {position : Nat} {field : AnnotatedField}

/-- The side table has the excluded options of each field. -/
theorem excludedOptions_exclusions (h : a.fields[position]? = some field) :
    a.exclusions.excludedOptions ⟨a.id, position⟩ = field.excludedOptions := by
  rw [ExclusionTable.excludedOptions, get?_exclusions, h]
  apply Exclusion.getD_filter_isEmpty
  rintro (positions | bits) hempty
  · exact List.isEmpty_iff.1 hempty
  · rfl

/-- The side table has the excluded bits of each field. -/
theorem excludedMask_exclusions (h : a.fields[position]? = some field) :
    a.exclusions.excludedMask ⟨a.id, position⟩ = field.excludedMask := by
  rw [ExclusionTable.excludedMask, get?_exclusions, h]
  apply Exclusion.getD_filter_isEmpty
  rintro (positions | bits) hempty
  · rfl
  · exact of_decide_eq_true hempty

end Annotated

/-! ## Code of a check -/

namespace Emission
namespace Validation

variable {s : Subject} {struct : String} {field : AnnotatedField}

/-- The check of an enum: a condition on the raw value, and the raw value to reset to. -/
def optionCheck (spelling condition reset : String) (place : Place) : String :=
  "\x7b\n" ++ shifted (ended [
    "let raw = usize::from(self." ++ place.member ++ ".raw());",
    "if " ++ condition ++ " \x7b",
    "    broken = true;",
    "    if reset \x7b",
    "        self." ++ place.member ++ " = <" ++ spelling ++ ">::from_raw(" ++ reset ++ ");",
    "    \x7d",
    "\x7d"]) ++ "\x7d\n"

/-- The check of an enum, as it is printed. -/
theorem writeDomain_enumeration (guard : EnumGuard) :
    writeDomain (.enumeration guard) =
      optionCheck guard.spelling guard.condition (toString guard.reset) := by
  funext place
  have hraw : "let raw = usize::from(" ++ place.own ++ ".raw());" =
      "let raw = usize::from(self." ++ place.member ++ ".raw());" := by
    simp [Place.own, Place.of_eq, ← String.toList_inj]
  have hreset : "    " ++ ("    " ++ (place.own ++ " = <" ++ guard.spelling ++ ">::from_raw(" ++
      toString guard.reset ++ ");")) =
      "        self." ++ place.member ++ " = <" ++ guard.spelling ++ ">::from_raw(" ++
        toString guard.reset ++ ");" := by
    simp [Place.own, Place.of_eq, ← String.toList_inj]
  unfold writeDomain optionCheck scope
  dsimp only
  rw [enclose_eq, render_eq_ended]
  simp only [List.map_append, map_spaced_block, map_spaced_line, List.map_cons, List.map_nil,
    List.cons_append, List.nil_append, hraw, hreset, String.reduceAppend]

/-- The code that checks domains, from the code of each field. -/
def domainCode (s : Subject) (checks : List String) : String :=
  implFor s [method "pub fn check_for_broken_enums(&mut self, reset: bool) -> bool"
    ("let mut broken = false;\n" ++ String.join checks ++ "broken\n")]

/-- The code that checks a field, nothing when it has no step. -/
def checkOf (step : Option (Step DomainCheck)) : String :=
  (step.map (Step.render writeDomain)).getD ""

/-- The code of a check is put together from fields. -/
theorem domains_eq_ok {code : String} (h : domains s = .ok code) :
    ∃ steps, s.fields.mapM (domainStep? s.name) = .ok steps ∧
      code = domainCode s (steps.map checkOf) := by
  rw [domains, Stepwise.bind_eq_ok_iff] at h
  rcases h with ⟨body, hbody, hcode⟩
  rw [domainBody, Stepwise.bind_eq_ok_iff] at hbody
  rcases hbody with ⟨steps, hsteps, hbody⟩
  refine ⟨steps, hsteps, ?_⟩
  have hjoin : _ = String.join (steps.map checkOf) := Piece.renderAll_filterMap writeDomain id steps
  rw [← Except.ok.inj hcode, ← Except.ok.inj hbody, domainCode, ← hjoin]
  simp [Piece.renderAll, Piece.render, String.join_append, String.join_cons, String.append_assoc]

/-- The code of a check cannot be emitted when an enum without wrappers has no option left. -/
theorem exists_error_checkBrokenEnums_iff :
    (∃ fault, Pass.standardEmit s .checkBrokenEnums = .error fault) ↔
      ∃ field ∈ s.fields, ∃ e, field.type.enum? = some e ∧ field.type.isPlain = true ∧
        ∀ option < e.options.length, option ∈ field.excludedOptions := by
  have hdomains : (∃ emitted, Pass.standardEmit s .checkBrokenEnums = .ok emitted) ↔
      ∃ code, domains s = .ok code := Stepwise.exists_bind_pure_iff
  rw [Stepwise.exists_error_iff, hdomains, exists_domains_iff]
  simp only [exists_domainStep?_iff, not_forall, not_exists, not_and, not_not, exists_prop]

/-! ## What a check does -/

/-- The texts of a check of options, read as numbers. The condition flags the raw values without an
option and those of excluded options, and the raw value to reset to is the least that is not
flagged. -/
structure ChecksOptions (options : Nat) (excluded : List Nat) (condition reset : String) :
    Prop where
  flags : ∃ test, rawTest? condition.toList = some test ∧
    ∀ raw, test.Flags raw ↔ options ≤ raw ∨ raw ∈ excluded
  resets : ∃ value, numeral? 10 reset.toList = some value ∧
    IsLeast {option | option < options ∧ option ∉ excluded} value
  settles : ∀ test value, rawTest? condition.toList = some test →
    numeral? 10 reset.toList = some value → ¬ test.Flags value

/-- The texts of a check of bits, read as masks. Of a value, those bits are flagged that are not
declared or are excluded, and the others are retained. -/
structure ChecksBits (count : Nat) (excluded : Mask) (unflagged retained : String) : Prop where
  flags : ∃ mask, hexadecimal? unflagged.toList = some mask ∧ ∀ (value : Mask) (bit : Nat),
    (value &&& ~~~BitVec.ofNat 64 mask).getLsbD bit = true ↔
      value.getLsbD bit = true ∧ (count ≤ bit ∨ excluded.getLsbD bit = true)
  resets : ∃ mask, hexadecimal? retained.toList = some mask ∧ ∀ (value : Mask) (bit : Nat),
    (value &&& BitVec.ofNat 64 mask).getLsbD bit = true ↔
      value.getLsbD bit = true ∧ ¬ (count ≤ bit ∨ excluded.getLsbD bit = true)

/-- The first option that is allowed is the least one. -/
theorem isLeast_firstAllowed? {options reset : Nat} {excluded : List Nat}
    (h : firstAllowed? options excluded = some reset) :
    IsLeast {option | option < options ∧ option ∉ excluded} reset := by
  rw [firstAllowed?, List.find?_range_eq_some] at h
  rcases h with ⟨hallowed, hreset, hearlier⟩
  refine ⟨⟨List.mem_range.1 hreset, by simpa using hallowed⟩, fun option hoption => ?_⟩
  by_contra hless
  exact hoption.2 (by simpa using hearlier option (by omega))

/-- The guard of an enum resets to the first option that is allowed. -/
theorem enumGuard_eq_ok {e : EnumDef} {guard : EnumGuard}
    (h : enumGuard struct e field = .ok guard) :
    ∃ reset, firstAllowed? e.options.length field.excludedOptions = some reset ∧
      guard = ⟨e.options.length, field.excludedOptions, reset, field.type.element.spelling⟩ := by
  cases hreset : firstAllowed? e.options.length field.excludedOptions with
  | none => simp [enumGuard, hreset] at h
  | some reset =>
      simp only [enumGuard, hreset, Except.ok.injEq] at h
      exact ⟨reset, rfl, h.symm⟩

/-- The guard of an enum field checks its options. -/
theorem checksOptions_enumGuard {e : EnumDef} {guard : EnumGuard}
    (h : enumGuard struct e field = .ok guard) :
    ChecksOptions e.options.length field.excludedOptions guard.condition
      (toString guard.reset) := by
  rcases enumGuard_eq_ok h with ⟨reset, hreset, rfl⟩
  have hleast := isLeast_firstAllowed? hreset
  refine ⟨⟨_, rawTest?_condition _, fun raw => Iff.rfl⟩, ⟨reset, numeral?_toString reset, hleast⟩,
    fun test value htest hvalue => ?_⟩
  rw [rawTest?_condition] at htest
  rw [numeral?_toString] at hvalue
  cases htest
  cases hvalue
  rintro (hbeyond | hexcluded)
  · exact absurd hleast.1.1 (Nat.not_lt.2 hbeyond)
  · exact hleast.1.2 hexcluded

/-- The mask of allowed bits checks the bits of a field. -/
theorem checksBits_allowedMask {b : BitfieldDef} (hbits : b.fields.length ≤ 64) :
    ChecksBits b.fields.length field.excludedMask (maskLiteral (allowedMask b field))
      (maskLiteral (allowedMask b field)) := by
  have hread := hexadecimal?_maskLiteral (allowedMask b field)
  have hallowed : ∀ bit, (allowedMask b field).getLsbD bit = true ↔
      ¬ (b.fields.length ≤ bit ∨ field.excludedMask.getLsbD bit = true) := by
    intro bit
    rw [getLsbD_allowedMask hbits, not_or, Nat.not_le, Bool.not_eq_true]
  refine ⟨⟨_, hread, fun value bit => ?_⟩, ⟨_, hread, fun value bit => ?_⟩⟩
  · rw [BitVec.ofNat_toNat, BitVec.setWidth_eq, BitVec.getLsbD_and, BitVec.getLsbD_not,
      Bool.and_eq_true]
    refine and_congr_right fun hvalue => ?_
    -- A bit of a value has room in a mask, so the complement of a mask has it or not.
    have hroom := BitVec.lt_of_getLsbD hvalue
    simp only [hroom, decide_true, Bool.true_and, Bool.not_eq_true', ← Bool.not_eq_true,
      hallowed bit, not_not]
  · rw [BitVec.ofNat_toNat, BitVec.setWidth_eq, BitVec.getLsbD_and, Bool.and_eq_true, hallowed bit]

/-- A plain enum is checked by its guard on each element. -/
theorem domainStep?_of_enum {e : EnumDef} (henum : field.type.enum? = some e)
    (hplain : field.type.isPlain = true) {step : Option (Step DomainCheck)}
    (h : domainStep? struct field = .ok step) :
    ∃ guard, enumGuard struct e field = .ok guard ∧
      step = some (.each field (.enumeration guard)) := by
  simp only [domainStep?, henum, hplain, Option.filter_some, if_true] at h
  rcases Stepwise.bind_eq_ok_iff.1 h with ⟨guard, hguard, hstep⟩
  exact ⟨guard, hguard, (Except.ok.inj hstep).symm⟩

end Validation

/-! ## What an editor is told -/

namespace Value

variable {s : Subject} {field : AnnotatedField}

/-- The entry of an enum field, with a list of excluded options. -/
def optionEntry (field : AnnotatedField) (names : List String) (excluded : String) : String :=
  "ParserStructValue::with_options(" ++ (Text.quoted field.name ++ ", &mut self." ++ field.ident) ++
    ", " ++ textList names ++ ", &[" ++ excluded ++ "]),\n"

/-- The entry of a field that is neither an enum nor a bitfield. -/
def plainEntry (field : AnnotatedField) : String :=
  "ParserStructValue::new(" ++ (Text.quoted field.name ++ ", &mut self." ++ field.ident) ++ "),\n"

/-- An entry of an editor view lists what a field may not hold: some options of an enum, or some
bits of a bitfield. -/
inductive Listed (field : AnnotatedField) (options : List Nat) (bits : Mask) : String → Prop where
  | enumeration {e : EnumDef} {listed : String} (henum : field.type.enum? = some e)
      (hlisted : numbers? ',' listed.toList = some options) :
      Listed field options bits (optionEntry field e.options listed)
  | bitfield {b : BitfieldDef} {literal : String} (hb : field.type.bitfield? = some b)
      (hliteral : hexadecimal? literal.toList = some bits.toNat) :
      Listed field options bits (bitEntry field b.fields literal)
  | other (henum : field.type.enum? = none) (hb : field.type.bitfield? = none) :
      Listed field options bits (plainEntry field)

/-- The entry of a field lists what the field may not hold. -/
theorem listed_accessorEntry (field : AnnotatedField) :
    Listed field field.excludedOptions field.excludedMask (accessorEntry field) := by
  cases henum : field.type.enum? with
  | some e =>
      have hentry : accessorEntry field = optionEntry field e.options
          (String.intercalate ", " (field.excludedOptions.map toString)) := by
        unfold accessorEntry accessor
        rw [henum]
        rfl
      rw [hentry]
      exact .enumeration henum
        (numbers?_intercalate [] [' '] (by decide) (by decide) (by decide) (by simp) (by simp) _)
  | none =>
      cases hb : field.type.bitfield? with
      | some b =>
          rw [accessorEntry_of_bits (accessor_of_bitfield hb)]
          exact .bitfield hb (hexadecimal?_maskLiteral _)
      | none =>
          have hentry : accessorEntry field = plainEntry field := by
            unfold accessorEntry accessor
            rw [henum, hb]
            rfl
          rw [hentry]
          exact .other henum hb

/-- The code of an editor view: the last of its methods lists the values of the struct, by
entries. -/
def Views (s : Subject) (entries : List String) (code : String) : Prop :=
  ∃ name title readOnly groups, code = implBlock ("impl ParserStruct for " ++ s.ident) [
    method "fn struct_name(&self) -> &'static str" name,
    method "fn title_member(&self) -> Option<&'static str>" title,
    method "fn is_read_only(&self) -> bool" readOnly,
    method "fn groups(&self) -> &'static [ParserStructGroup]" groups,
    method "fn values(&mut self) -> Vec<ParserStructValue<'_>>"
      ("vec![\n" ++ shifted (String.join entries) ++ "]\n")]

/-- The view of a struct lists the entries of its visible fields. -/
theorem views_view (s : Subject) : Views s (entries s) (view s) := by
  have hvalues : enclose "vec![" (String.join (entries s)) "]" =
      "vec![\n" ++ shifted (String.join (entries s)) ++ "]\n" :=
    enclose_eq "vec![" (String.join (entries s)) "]"
  unfold Views
  rw [← hvalues]
  exact ⟨_, _, _, _, rfl⟩

/-- Fields keep their order when they are shown with their positions. -/
theorem filter_zipIdx (shown : AnnotatedField → Bool) (fields : List AnnotatedField) (start : Nat) :
    ((fields.zipIdx start).filter fun place => shown place.1).map Prod.fst =
      fields.filter shown := by
  calc ((fields.zipIdx start).filter fun place => shown place.1).map Prod.fst
      = ((fields.zipIdx start).map Prod.fst).filter shown := List.filter_map.symm
    _ = fields.filter shown := by rw [List.zipIdx_map_fst]

end Value

/-! ## Agreement -/

open Validation

variable {s : Subject} {field : AnnotatedField}

/-- The check of an enum field without wrappers flags and resets by a list of excluded options. -/
def ChecksEnum (field : AnnotatedField) (e : EnumDef) (excluded : List Nat) (check : String) :
    Prop :=
  ∃ condition reset,
    check = onEach field (optionCheck field.type.element.spelling condition reset) ∧
      ChecksOptions e.options.length excluded condition reset

/-- The check of a bitfield field without wrappers flags and retains by a mask of excluded bits. -/
def ChecksBitfield (field : AnnotatedField) (b : BitfieldDef) (excluded : Mask) (check : String) :
    Prop :=
  ∃ unflagged retained, check = onEach field (bitCheck unflagged retained) ∧
    ChecksBits b.fields.length excluded unflagged retained

/-- The check that is put together for an enum field. -/
theorem checksEnum_of_domainStep? {e : EnumDef} {step : Option (Step DomainCheck)}
    (henum : field.type.enum? = some e) (hplain : field.type.isPlain = true)
    (h : domainStep? s.name field = .ok step) :
    ChecksEnum field e field.excludedOptions (checkOf step) := by
  rcases domainStep?_of_enum henum hplain h with ⟨guard, hguard, rfl⟩
  refine ⟨guard.condition, toString guard.reset, ?_, checksOptions_enumGuard hguard⟩
  rcases enumGuard_eq_ok hguard with ⟨reset, _, rfl⟩
  rw [checkOf, Option.map_some, Option.getD_some, Step.render_each, writeDomain_enumeration]

/-- The check that is put together for a bitfield field. -/
theorem checksBitfield_of_domainStep? {b : BitfieldDef} {step : Option (Step DomainCheck)}
    (hb : field.type.bitfield? = some b) (hbits : b.fields.length ≤ 64)
    (hplain : field.type.isPlain = true) (h : domainStep? s.name field = .ok step) :
    ChecksBitfield field b field.excludedMask (checkOf step) := by
  rw [domainStep?_of_bitfield hb hplain] at h
  rw [← Except.ok.inj h]
  refine ⟨_, _, ?_, checksBits_allowedMask hbits⟩
  rw [checkOf, Option.map_some, Option.getD_some, Step.render_each, writeDomain_bitfield]

/-- The checks of a struct and its editor view go by one side table. The table is asked for the
position of a field in the struct. -/
structure DomainsAgree (s : Subject) (annotated : Annotated) : Prop where
  /-- The check cannot be emitted exactly when an enum without wrappers has all of its options
  excluded, which holds of an enum without options. -/
  unchecked : (∃ fault, Pass.standardEmit s .checkBrokenEnums = .error fault) ↔
    ∃ (position : Nat) (field : AnnotatedField) (e : EnumDef),
      annotated.fields[position]? = some field ∧ field.type.enum? = some e ∧
      field.type.isPlain = true ∧ ∀ option < e.options.length,
        option ∈ annotated.exclusions.excludedOptions ⟨annotated.id, position⟩
  /-- Otherwise its code is put together from one check for each field, and that of an enum or a
  bitfield without wrappers goes by what is excluded. -/
  checked : ∀ emitted, Pass.standardEmit s .checkBrokenEnums = .ok emitted →
    ∃ checks : List String, emitted = { code := domainCode s checks } ∧
      checks.length = annotated.fields.length ∧
      ∀ (position : Nat) (field : AnnotatedField), annotated.fields[position]? = some field →
        field.type.isPlain = true → ∃ check, checks[position]? = some check ∧
          (∀ e, field.type.enum? = some e → ChecksEnum field e
            (annotated.exclusions.excludedOptions ⟨annotated.id, position⟩) check) ∧
          ∀ b, field.type.bitfield? = some b → ChecksBitfield field b
            (annotated.exclusions.excludedMask ⟨annotated.id, position⟩) check
  /-- The editor view has exactly one entry for each visible field, in order, and it lists what is
  excluded. -/
  viewed : ∀ emitted, Pass.standardEmit s .structValue = .ok emitted →
    ∃ entries, Value.Views s entries emitted.code ∧
      List.Forall₂ (fun place entry => Value.Listed place.1
          (annotated.exclusions.excludedOptions ⟨annotated.id, place.2⟩)
          (annotated.exclusions.excludedMask ⟨annotated.id, place.2⟩) entry)
        (annotated.fields.zipIdx.filter fun place =>
          !place.1.definition.hidden || s.revealHidden) entries
  /-- There is a view unless the title is not the name of a field. -/
  viewable : (∀ title, s.title = some title → ∃ field ∈ annotated.fields, field.name = title) →
    ∃ emitted, Pass.standardEmit s .structValue = .ok emitted

end Emission

namespace Generator

open Validation

variable {g : Generator} {id : g.StructId} {annotated : Annotated}

/-- What the view of a struct lists is what the side table holds. -/
theorem forall₂_listed_entries (ident : String) :
    List.Forall₂ (fun place entry => Value.Listed place.1
        (annotated.exclusions.excludedOptions ⟨annotated.id, place.2⟩)
        (annotated.exclusions.excludedMask ⟨annotated.id, place.2⟩) entry)
      (annotated.fields.zipIdx.filter fun place =>
        !place.1.definition.hidden || (g.subject id ident annotated).revealHidden)
      (Value.entries (g.subject id ident annotated)) := by
  have hentries : Value.entries (g.subject id ident annotated) =
      (annotated.fields.zipIdx.filter fun place =>
        (g.subject id ident annotated).isVisible place.1).map fun place =>
          Value.accessorEntry place.1 := by
    rw [← Function.comp_def Value.accessorEntry, ← List.map_map, Value.filter_zipIdx]
    rfl
  rw [hentries, List.forall₂_map_right_iff]
  refine List.forall₂_same.2 fun place hplace => ?_
  have hfield : annotated.fields[place.2]? = some place.1 :=
    List.mem_zipIdx_iff_getElem?.1 (List.mem_filter.1 hplace).1
  rw [Annotated.excludedOptions_exclusions hfield, Annotated.excludedMask_exclusions hfield]
  exact Value.listed_accessorEntry place.1

/-- Validator and editor agree, and resets are valid. The check of a struct cannot be emitted
exactly when an enum without wrappers has all of its options excluded, which holds of an enum
without options. Otherwise its code is put together from one check for each field. That of an enum
without wrappers flags the raw values that have no option or an excluded one, and resets to the
least raw value that it does not flag; that of a bitfield without wrappers flags the bits that are
not declared or excluded, and retains the others. What is excluded is in both cases what the side
table of the struct holds, and what the one entry of the field in the editor view lists. -/
theorem validator_agrees_with_editor (g : Generator) {id : g.StructId} {annotated : Annotated}
    (h : g.annotate id = .ok annotated) (ident : String) :
    DomainsAgree (g.subject id ident annotated) annotated where
  unchecked := by
    rw [exists_error_checkBrokenEnums_iff]
    constructor
    · rintro ⟨field, hmem, e, henum, hplain, hall⟩
      rcases List.mem_iff_getElem?.1 hmem with ⟨position, hfield⟩
      rw [← Annotated.excludedOptions_exclusions hfield] at hall
      exact ⟨position, field, e, hfield, henum, hplain, hall⟩
    · rintro ⟨position, field, e, hfield, henum, hplain, hall⟩
      rw [Annotated.excludedOptions_exclusions hfield] at hall
      exact ⟨field, List.mem_of_getElem? hfield, e, henum, hplain, hall⟩
  checked := by
    intro emitted hemitted
    rcases Stepwise.bind_eq_ok_iff.1 hemitted with ⟨code, hcode, hemitted⟩
    rcases domains_eq_ok hcode with ⟨steps, hsteps, rfl⟩
    refine ⟨steps.map checkOf, (Except.ok.inj hemitted).symm, ?_,
      fun position field hfield hplain => ?_⟩
    · rw [List.length_map]
      exact Stepwise.length_of_mapM hsteps
    · rcases Stepwise.getElem?_of_mapM hsteps hfield with ⟨step, hstep, hchecked⟩
      refine ⟨checkOf step, by rw [List.getElem?_map, hstep]; rfl, fun e henum => ?_,
        fun b hb => ?_⟩
      · rw [Annotated.excludedOptions_exclusions hfield]
        exact checksEnum_of_domainStep? henum hplain hchecked
      · rw [Annotated.excludedMask_exclusions hfield]
        have hfits := g.catalog.bitsFit_of_resolveFields (Tables.resolveFields_of_annotate h)
        have hbits : b.fields.length ≤ 64 :=
          hfits _ (List.mem_map_of_mem (List.mem_of_getElem? hfield)) b hb
        exact checksBitfield_of_domainStep? hb hbits hplain hchecked
  viewed := by
    intro emitted hemitted
    refine ⟨_, ?_, forall₂_listed_entries ident⟩
    cases htitle : Value.titleFault? (g.subject id ident annotated) with
    | some fault => simp [Pass.standardEmit, htitle] at hemitted
    | none =>
        rw [Pass.standardEmit, htitle] at hemitted
        cases hemitted
        exact Value.views_view _
  viewable := by
    intro htitle
    have hfault : Value.titleFault? (g.subject id ident annotated) = none :=
      Value.titleFault?_eq_none_iff.2 htitle
    exact ⟨_, by rw [Pass.standardEmit, hfault]; rfl⟩

/-- Three ranks, the first of which stands for none. -/
def ranks : EnumDef where
  name := "Rank"
  options := ["none", "low", "high"]

/-- Three honours. -/
def honours : BitfieldDef where
  name := "Honours"
  fields := ["seen", "named", "crowned"]
  width := 8

/-- Squads with the ranks of two members and with honours, and ghosts that are left no rank. -/
def roster : Generator where
  catalog := {
    enums := [ranks]
    bitfields := [honours]
    structs := [
      { name := "Squad",
        fields := [
          { memberName := "members", type := .named "Rank", count := 2,
            exclude := [{ option := "none" }] },
          { memberName := "honours", type := .named "Honours",
            exclude := [{ option := "named" }] }] },
      { name := "Ghost",
        fields := [
          { memberName := "rank", type := .named "Rank",
            exclude := [{ option := "high" }, { option := "none" }, { option := "low" }] }] }]
    faultless := by decide }

/-- What a struct has to tell of its fields for a check. -/
def fieldKinds (a : Annotated) : List (Option EnumDef × Option BitfieldDef × Bool) :=
  a.fields.map fun field => (field.type.enum?, field.type.bitfield?, field.type.isPlain)

/-- A field with an enum or a bitfield is found at its position. -/
theorem exists_field_of_fieldKinds {a : Annotated} {position : Nat} {e : Option EnumDef}
    {b : Option BitfieldDef} (h : (fieldKinds a)[position]? = some (e, b, true)) :
    ∃ field, a.fields[position]? = some field ∧ field.type.enum? = e ∧ field.type.bitfield? = b ∧
      field.type.isPlain = true := by
  rw [fieldKinds, List.getElem?_map, Option.map_eq_some_iff] at h
  rcases h with ⟨field, hfield, hkind⟩
  simp only [Prod.mk.injEq] at hkind
  exact ⟨field, hfield, hkind⟩

/-- The squad has a check and an entry of its ranks and of its honours, and the ghost cannot be
checked. -/
theorem roster_validator_agrees :
    ∃ (squad ghost : roster.StructId) (company spectres : Annotated) (validator editor : Emitted),
      roster.annotate squad = .ok company ∧ roster.annotate ghost = .ok spectres ∧
      Pass.standardEmit (roster.subject squad "Squad" company) .checkBrokenEnums = .ok validator ∧
      Pass.standardEmit (roster.subject squad "Squad" company) .structValue = .ok editor ∧
      (∃ members check, company.fields[0]? = some members ∧ ChecksEnum members ranks [0] check) ∧
      (∃ honoured check, company.fields[1]? = some honoured ∧
        ChecksBitfield honoured honours 2 check) ∧
      (∃ entries, Value.Views (roster.subject squad "Squad" company) entries editor.code ∧
        entries.length = 2) ∧
      ∃ fault, Pass.standardEmit (roster.subject ghost "Ghost" spectres) .checkBrokenEnums =
        .error fault := by
  let squad : roster.StructId := ⟨0, by decide⟩
  let ghost : roster.StructId := ⟨1, by decide⟩
  have hcompany : (roster.annotate squad).map (fun a => (fieldKinds a,
      a.exclusions.excludedOptions ⟨a.id, 0⟩, a.exclusions.excludedMask ⟨a.id, 1⟩)) =
      .ok ([(some ranks, none, true), (none, some honours, true)], [0], 2) := by decide +kernel
  have hvisible : (roster.annotate squad).map (fun a =>
      (a.fields.zipIdx.filter fun place => !place.1.definition.hidden || false).length) =
      .ok 2 := by decide +kernel
  have hspectres : (roster.annotate ghost).map (fun a => (fieldKinds a,
      a.exclusions.excludedOptions ⟨a.id, 0⟩)) = .ok ([(some ranks, none, true)], [0, 1, 2]) := by
    decide +kernel
  have hvalidator : (roster.annotate squad >>= fun a =>
      Pass.standardEmit (roster.subject squad "Squad" a) .checkBrokenEnums).isOk = true := by
    decide +kernel
  rcases Stepwise.exists_ok_of_isOk
    (show (roster.annotate squad).isOk = true by decide +kernel) with ⟨company, hsquad⟩
  rcases Stepwise.exists_ok_of_isOk
    (show (roster.annotate ghost).isOk = true by decide +kernel) with ⟨spectres, hghost⟩
  rw [hsquad] at hcompany hvisible hvalidator
  rw [hghost] at hspectres
  simp only [Except.map, Except.ok.injEq, Prod.mk.injEq] at hcompany hvisible hspectres
  rcases hcompany with ⟨hkinds, hoptions, hmask⟩
  rcases hspectres with ⟨hghostKinds, hnone⟩
  have hagree := roster.validator_agrees_with_editor hsquad "Squad"
  rcases Stepwise.exists_ok_of_isOk hvalidator with ⟨validator, hvalidator⟩
  rcases hagree.viewable nofun with ⟨editor, heditor⟩
  rcases hagree.checked validator hvalidator with ⟨checks, _, _, hchecked⟩
  rcases hagree.viewed editor heditor with ⟨entries, hviews, hlisted⟩
  refine ⟨squad, ghost, company, spectres, validator, editor, hsquad, hghost, hvalidator, heditor,
    ?_, ?_, ⟨entries, hviews, hlisted.length_eq.symm.trans hvisible⟩, ?_⟩
  · rcases exists_field_of_fieldKinds (show (fieldKinds company)[0]? = _ by rw [hkinds]; rfl) with
      ⟨members, hfield, henum, _, hplain⟩
    rcases hchecked 0 members hfield hplain with ⟨check, _, hcheck, _⟩
    exact ⟨members, check, hfield, hoptions ▸ hcheck ranks henum⟩
  · rcases exists_field_of_fieldKinds (show (fieldKinds company)[1]? = _ by rw [hkinds]; rfl) with
      ⟨honoured, hfield, _, hb, hplain⟩
    rcases hchecked 1 honoured hfield hplain with ⟨check, _, _, hcheck⟩
    exact ⟨honoured, check, hfield, hmask ▸ hcheck honours hb⟩
  · rcases exists_field_of_fieldKinds (show (fieldKinds spectres)[0]? = _ by rw [hghostKinds]; rfl)
      with ⟨rank, hfield, henum, _, hplain⟩
    refine (roster.validator_agrees_with_editor hghost "Ghost").unchecked.2
      ⟨0, rank, ranks, hfield, henum, hplain, ?_⟩
    rw [hnone]
    decide

end Generator
end TagSchema
