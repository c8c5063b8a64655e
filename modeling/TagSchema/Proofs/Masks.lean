import Mathlib.Algebra.Group.Nat.Defs
import TagSchema.Emission.Authoring
import TagSchema.Emission.Comparison
import TagSchema.Emission.Value
import TagSchema.Proofs.Bodies
import TagSchema.Proofs.ExactExclusions
import TagSchema.Proofs.Literals

/-!
# Masks of bitfields

The bits of a bitfield are numbered from zero, so a bitfield of `n` bits has the numbers below `2 ^
n` as its values. The masks that are computed for a field of it, of the bits that are excluded,
allowed or left to cache data, have no other bits. A catalog only has bitfields whose bits fit their
width, so no shift that makes such a mask loses its bit, and no mask that is written exceeds the
width.

Main results:

- `BitfieldDef.toNat_validMask`, `BitfieldDef.getLsbD_validMask`: the mask of all bits.
- `BitfieldDef.excludedIn_within`, `BitfieldDef.cacheOnlyMask_within`: masks of some of the bits.
- `Emission.Validation.allowedMask_or_excludedMask`: allowed and excluded bits make up all bits.
- `Emission.WritesMask.printed`: the code that a mask is written into.
- `Catalog.masks_fit_width`: the masks of a field of a catalog.
-/

namespace TagSchema

/-! ## Masks -/

namespace Mask

/-- Each bit of a mask is one of another mask. -/
def Within (mask whole : Mask) : Prop :=
  ∀ bit, mask.getLsbD bit = true → whole.getLsbD bit = true

/-- The shift that makes a mask of one bit loses nothing when the bit has room. -/
theorem toNat_bit {position : Nat} (h : position < 64) : (Mask.bit position).toNat = 2 ^ position :=
  BitVec.toNat_twoPow_of_lt h

/-- A mask with all its bits below a count is below that power of two. -/
theorem toNat_lt {mask : Mask} {count : Nat} (h : ∀ bit, mask.getLsbD bit = true → bit < count) :
    mask.toNat < 2 ^ count := by
  apply Nat.lt_pow_two_of_testBit
  intro bit hbit
  rw [BitVec.testBit_toNat, Bool.eq_false_iff]
  intro hset
  have := h bit hset
  omega

end Mask

/-! ## Bitfields -/

namespace BitfieldDef

variable {b : BitfieldDef} {bit : Nat}

theorem lt_of_position? {name : String} (h : b.position? name = some bit) : bit < b.fields.length :=
  (List.findIdx?_eq_some_iff_getElem.1 h).1

/-- The mask of all bits is one less than a power of two, without bits and with as many bits as a
mask has too. -/
theorem toNat_validMask (hbits : b.fields.length ≤ 64) :
    b.validMask.toNat = 2 ^ b.fields.length - 1 := by
  unfold validMask
  by_cases hzero : b.fields.length = 0
  · simp [hzero]
  by_cases hfull : 64 ≤ b.fields.length
  · have hlength : b.fields.length = 64 := by omega
    simp [hlength]
  · have hroom : b.fields.length < 64 := by omega
    have hone : (1 : Mask) ≤ Mask.bit b.fields.length := by
      rw [BitVec.le_def, Mask.toNat_bit hroom]
      exact Nat.one_le_two_pow
    simp only [hzero, hfull, if_false]
    rw [BitVec.toNat_sub_of_le hone, Mask.toNat_bit hroom]
    rfl

/-- The valid mask has the bits of the bitfield, and no others. -/
theorem getLsbD_validMask (hbits : b.fields.length ≤ 64) :
    b.validMask.getLsbD bit = true ↔ bit < b.fields.length := by
  rw [← BitVec.testBit_toNat, toNat_validMask hbits, Nat.testBit_two_pow_sub_one, decide_eq_true_eq]

/-- Bits for the cache only are bits of the bitfield. -/
theorem cacheOnlyMask_within (hbits : b.fields.length ≤ 64) :
    b.cacheOnlyMask.Within b.validMask := by
  intro bit hbit
  rw [cacheOnlyMask, Mask.getLsbD_ofPositions, List.mem_filterMap] at hbit
  rcases hbit with ⟨_, name, _, hposition⟩
  exact (getLsbD_validMask hbits).2 (lt_of_position? hposition)

/-- Excluded bits are bits of the bitfield. -/
theorem excludedIn_within {struct : String} {field : FieldDef} {mask : Mask}
    (hbits : b.fields.length ≤ 64) (h : b.excludedIn struct field = .ok mask) :
    mask.Within b.validMask := by
  intro bit hbit
  rw [getLsbD_excludedIn h hbits, FieldDef.excludesAt_iff] at hbit
  rcases hbit with ⟨entry, _, hposition⟩
  exact (getLsbD_validMask hbits).2 (lt_of_position? hposition)

end BitfieldDef

/-! ## Fields -/

theorem FieldType.enum?_of_bitfield? {type : FieldType} {b : BitfieldDef}
    (h : type.bitfield? = some b) : type.enum? = none := by
  cases henum : type.enum? with
  | none => rfl
  | some e =>
      rw [bitfield?_of_enum? henum] at h
      cases h

section Field

variable {struct : String} {field : ResolvedField} {annotated : AnnotatedField} {b : BitfieldDef}

/-- The excluded bits of an annotated field are those that its bitfield comes to. -/
theorem ResolvedField.excludedIn_of_annotate (h : field.annotate struct = .ok annotated)
    (hb : field.type.bitfield? = some b) :
    b.excludedIn struct field.definition = .ok annotated.excludedMask := by
  have hexclusion := (annotate_eq_ok h).2
  simp only [exclusionIn, FieldType.enum?_of_bitfield? hb, hb] at hexclusion
  rcases Stepwise.bind_eq_ok_iff.1 hexclusion with ⟨mask, hmask, hfound⟩
  rw [AnnotatedField.excludedMask, ← Except.ok.inj hfound]
  exact hmask

namespace Emission
namespace Validation

/-- The allowed bits are those of the bitfield that are not excluded. -/
theorem getLsbD_allowedMask (hbits : b.fields.length ≤ 64) {bit : Nat} :
    (allowedMask b annotated).getLsbD bit = true ↔
      bit < b.fields.length ∧ annotated.excludedMask.getLsbD bit = false := by
  rw [allowedMask, BitVec.getLsbD_and, Bool.and_eq_true, BitfieldDef.getLsbD_validMask hbits]
  refine and_congr_right fun hbit => ?_
  have hroom : bit < 64 := by omega
  simp [hroom]

/-- No bit is both allowed and excluded. -/
theorem allowedMask_and_excludedMask :
    allowedMask b annotated &&& annotated.excludedMask = 0 := by
  rw [allowedMask, BitVec.and_assoc, BitVec.and_comm (~~~annotated.excludedMask)]
  simp

/-- Allowed and excluded bits make up all bits. -/
theorem allowedMask_or_excludedMask (hexcluded : annotated.excludedMask.Within b.validMask) :
    allowedMask b annotated ||| annotated.excludedMask = b.validMask := by
  apply BitVec.eq_of_getLsbD_eq
  intro bit hbit
  have hwithin := hexcluded bit
  rw [allowedMask, BitVec.getLsbD_or, BitVec.getLsbD_and, BitVec.getLsbD_not]
  cases hset : annotated.excludedMask.getLsbD bit with
  | false => simp [hbit]
  | true => simp [hwithin hset]

end Validation

/-! ## Masks that are written -/

/-- A mask that is written into the code of a field: by the check of its domain, for an editor, by
the methods that write and read it, or by the comparison of its values. -/
inductive WritesMask (struct : String) (field : AnnotatedField) : Mask → Prop
  | domain {step : Step Validation.DomainCheck} {mask : Mask}
      (emitted : Validation.domainStep? struct field = .ok (some step))
      (action : step.action = .bitfield mask) : WritesMask struct field mask
  | editor {names : List String} {mask : Mask}
      (accessor : Value.accessor field = .bits names mask) : WritesMask struct field mask
  | write {mask : Mask} (action : (Authoring.fieldWrite field).base.action = .clear mask) :
      WritesMask struct field mask
  | read {step : Step Authoring.BaseRead} {mask : Mask}
      (emitted : step ∈ (Authoring.fieldRead field).base) (action : step.action = .clear mask) :
      WritesMask struct field mask
  | compare {mask : Mask} (action : (Comparison.testStep field).action.test = .masked mask) :
      WritesMask struct field mask

/-- The check of a bitfield without wrappers is one of its allowed bits. -/
theorem Validation.domainStep?_of_bitfield (hb : annotated.type.bitfield? = some b)
    (hplain : annotated.type.isPlain = true) :
    domainStep? struct annotated =
      .ok (some (.each annotated (.bitfield (allowedMask b annotated)))) := by
  simp [domainStep?, FieldType.enum?_of_bitfield? hb, hb, hplain, Option.filter_some]

/-- An editor view shows a bitfield by its bits and its excluded mask. -/
theorem Value.accessor_of_bitfield (hb : annotated.type.bitfield? = some b) :
    accessor annotated = .bits b.fields annotated.excludedMask := by
  simp [accessor, FieldType.enum?_of_bitfield? hb, hb]

/-- The domain of a field is checked for each element. -/
theorem Validation.eq_each_of_domainStep? {step : Step DomainCheck}
    (h : domainStep? struct annotated = .ok (some step)) : step = .each annotated step.action := by
  unfold domainStep? at h
  split at h
  · obtain ⟨guard, -, hstep⟩ := Stepwise.bind_eq_ok_iff.1 h
    cases hstep
    rfl
  · cases h
    rfl
  · split at h
    · cases h
      rfl
    · cases h

/-- Bits are cleared on the way out for each element, and they are the cache-only ones. -/
theorem Authoring.base_fieldWrite_of_clear {mask : Mask}
    (h : (fieldWrite annotated).base.action = .clear mask) :
    mask = annotated.cacheOnlyMask ∧
      (fieldWrite annotated).base = .each annotated (.clear mask) := by
  unfold fieldWrite at h ⊢
  split_ifs at h ⊢
  all_goals cases h
  exact ⟨rfl, rfl⟩

/-- Bits are cleared on the way in for each element, and they are the cache-only ones. -/
theorem Authoring.eq_each_of_clear {step : Step BaseRead} {mask : Mask}
    (hstep : step ∈ (fieldRead annotated).base) (h : step.action = .clear mask) :
    mask = annotated.cacheOnlyMask ∧ step = .each annotated (.clear mask) := by
  unfold fieldRead at hstep
  split at hstep
  · rcases List.mem_cons.1 hstep with rfl | hclearing
    · cases h
    · split at hclearing
      · rw [List.mem_singleton.1 hclearing] at h ⊢
        cases h
        exact ⟨rfl, rfl⟩
      · cases hclearing
  · -- a field that is not stored inside the base is not taken out of it
    repeat' split at hstep
    all_goals cases hstep

/-- Bits are left out of a comparison for each element, and they are the cache-only ones. -/
theorem Comparison.testStep_of_masked {mask : Mask}
    (h : (testStep annotated).action.test = .masked mask) :
    mask = annotated.cacheOnlyMask ∧
      testStep annotated = .each annotated ⟨annotated.definition.volatile, .masked mask⟩ := by
  unfold testStep at h ⊢
  split_ifs at h ⊢
  all_goals cases h
  exact ⟨rfl, rfl⟩

/-- A mask that is written for a field is one of three. -/
theorem WritesMask.eq_or {mask : Mask} (h : WritesMask struct annotated mask)
    (hb : annotated.type.bitfield? = some b) :
    mask = Validation.allowedMask b annotated ∨ mask = annotated.excludedMask ∨
      mask = b.cacheOnlyMask := by
  have hcache : annotated.cacheOnlyMask = b.cacheOnlyMask := by
    simp [AnnotatedField.cacheOnlyMask, hb]
  cases h with
  | domain hemitted haction =>
      by_cases hplain : annotated.type.isPlain = true
      · rw [Validation.domainStep?_of_bitfield hb hplain] at hemitted
        cases hemitted
        exact Or.inl (Validation.DomainCheck.bitfield.inj haction).symm
      · simp only [Validation.domainStep?, FieldType.enum?_of_bitfield? hb, hb, hplain,
          Option.filter_none, Option.filter_some, Bool.false_eq_true, if_false] at hemitted
        split at hemitted
        · cases hemitted
          cases haction
        · cases hemitted
  | editor haccessor =>
      rw [Value.accessor_of_bitfield hb] at haccessor
      cases haccessor
      exact Or.inr (Or.inl rfl)
  | write haction =>
      exact Or.inr (Or.inr ((Authoring.base_fieldWrite_of_clear haction).1.trans hcache))
  | read hemitted haction =>
      exact Or.inr (Or.inr ((Authoring.eq_each_of_clear hemitted haction).1.trans hcache))
  | compare haction =>
      exact Or.inr (Or.inr ((Comparison.testStep_of_masked haction).1.trans hcache))

/-! ## Masks in print -/

/-- The check of a bitfield: a mask of bits that are not flagged, and a mask of bits to retain. -/
def Validation.bitCheck (unflagged retained : String) (place : Place) : String :=
  ended [
    "if self." ++ place.member ++ ".bits() & !" ++ unflagged ++ " != 0 \x7b",
    "    broken = true;",
    "    if reset \x7b",
    "        self." ++ place.member ++ ".retain_bits(" ++ retained ++ ");",
    "    \x7d",
    "\x7d"]

/-- The entry of a bitfield field, with a mask of excluded bits. -/
def Value.bitEntry (field : AnnotatedField) (names : List String) (excluded : String) : String :=
  "ParserStructValue::with_bits(" ++ (Text.quoted field.name ++ ", &mut self." ++ field.ident) ++
    ", " ++ textList names ++ ", " ++ excluded ++ "),\n"

/-- A place that is put into the base without some of its bits. -/
def Authoring.clearedOut (literal : String) (place : Place) : String :=
  ended [
    "let mut bits = self." ++ place.member ++ ";",
    "bits.retain_bits(!" ++ literal ++ ");",
    "base." ++ place.member ++ " = bits.into();"]

/-- A place that loses some of its bits after it was taken out of the base. -/
def Authoring.clearedIn (literal : String) (place : Place) : String :=
  "value." ++ place.member ++ ".retain_bits(!" ++ literal ++ ");\n"

/-- A comparison that may leave out some of the bits of a place. -/
def Comparison.maskedTest (isVolatile : Bool) (literal : String) (place : Place) : String :=
  let mine := "self." ++ place.member
  let theirs := "other." ++ place.member
  ended [
    "if " ++ (if isVolatile then "!ignore_volatile && " else "") ++ "!(" ++
      "if ignore_volatile \x7b (" ++ mine ++ ".bits() & !" ++ literal ++ ") == (" ++ theirs ++
      ".bits() & !" ++ literal ++ ") \x7d else \x7b " ++ mine ++ " == " ++ theirs ++ " \x7d" ++
      ")" ++ " \x7b",
    "    return false;",
    "\x7d"]

/-- The check of a bitfield, as it is printed. -/
theorem Validation.writeDomain_bitfield (mask : Mask) :
    writeDomain (.bitfield mask) = bitCheck (maskLiteral mask) (maskLiteral mask) := by
  funext place
  rw [writeDomain, render_eq_ended, bitCheck]
  congr 1
  simp [block, line, Row.nest, Row.spaced, Place.own, Place.of_eq, ← String.toList_inj]

/-- The entry of a bitfield, as it is printed. -/
theorem Value.accessorEntry_of_bits {names : List String} {mask : Mask}
    (h : accessor annotated = .bits names mask) :
    accessorEntry annotated = bitEntry annotated names (maskLiteral mask) := by
  unfold accessorEntry
  rw [h]
  rfl

/-- The clearing of bits on the way out, as it is printed. -/
theorem Authoring.writeBaseWrite_clear (mask : Mask) :
    writeBaseWrite (.clear mask) = clearedOut (maskLiteral mask) := by
  funext place
  rw [writeBaseWrite, render_eq_ended, clearedOut]
  congr 1
  simp [line, Row.spaced, Place.own, Place.of_eq, ← String.toList_inj]

/-- The clearing of bits on the way in, as it is printed. -/
theorem Authoring.writeBaseRead_clear (mask : Mask) :
    writeBaseRead (.clear mask) = clearedIn (maskLiteral mask) := by
  funext place
  simp [writeBaseRead, clearedIn, Place.of_eq, ← String.toList_inj]

/-- The comparison of bits, as it is printed. -/
theorem Comparison.writeTest_masked (isVolatile : Bool) (mask : Mask) :
    writeTest ⟨isVolatile, .masked mask⟩ = maskedTest isVolatile (maskLiteral mask) := by
  funext place
  have hmine : place.own = "self." ++ place.member := by
    simp [Place.own, Place.of_eq, ← String.toList_inj]
  have htheirs : place.of "other" = "other." ++ place.member := by
    simp [Place.of_eq, ← String.toList_inj]
  unfold writeTest maskedTest
  rw [render_eq_ended, map_spaced_block, map_spaced_line]
  refine congrArg ended (congrArg₂ List.cons ?_ rfl)
  unfold equality
  rw [hmine, htheirs]
  simp only [String.append_assoc]

/-- A mask that is written for a field stands in the code of one of five printers, where it is the
only mask: in the check of the domain, for an editor, on the way out, on the way in, or in a
comparison. -/
theorem WritesMask.printed {mask : Mask} (h : WritesMask struct annotated mask) :
    (∃ step, Validation.domainStep? struct annotated = .ok (some step) ∧
      step.render Validation.writeDomain =
        onEach annotated (Validation.bitCheck (maskLiteral mask) (maskLiteral mask))) ∨
    (∃ names, Value.accessorEntry annotated =
      Value.bitEntry annotated names (maskLiteral mask)) ∨
    (Authoring.fieldWrite annotated).base.render Authoring.writeBaseWrite =
      onEach annotated (Authoring.clearedOut (maskLiteral mask)) ∨
    (∃ step ∈ (Authoring.fieldRead annotated).base, step.render Authoring.writeBaseRead =
      onEach annotated (Authoring.clearedIn (maskLiteral mask))) ∨
    (Comparison.testStep annotated).render Comparison.writeTest =
      onEach annotated
        (Comparison.maskedTest annotated.definition.volatile (maskLiteral mask)) := by
  cases h with
  | domain hemitted haction =>
      refine Or.inl ⟨_, hemitted, ?_⟩
      rw [Validation.eq_each_of_domainStep? hemitted, haction, Step.render_each,
        Validation.writeDomain_bitfield]
  | editor haccessor => exact Or.inr (Or.inl ⟨_, Value.accessorEntry_of_bits haccessor⟩)
  | write haction =>
      refine Or.inr (Or.inr (Or.inl ?_))
      rw [(Authoring.base_fieldWrite_of_clear haction).2, Step.render_each,
        Authoring.writeBaseWrite_clear]
  | read hemitted haction =>
      refine Or.inr (Or.inr (Or.inr (Or.inl ⟨_, hemitted, ?_⟩)))
      rw [(Authoring.eq_each_of_clear hemitted haction).2, Step.render_each,
        Authoring.writeBaseRead_clear]
  | compare haction =>
      refine Or.inr (Or.inr (Or.inr (Or.inr ?_)))
      rw [(Comparison.testStep_of_masked haction).2, Step.render_each, Comparison.writeTest_masked]

/-- Every mask that is written for a bitfield has bits of it only. -/
theorem WritesMask.within {mask : Mask} (h : WritesMask struct annotated mask)
    (hbits : b.fields.length ≤ 64) (hb : annotated.type.bitfield? = some b)
    (hexcluded : annotated.excludedMask.Within b.validMask) : mask.Within b.validMask := by
  rcases h.eq_or hb with rfl | rfl | rfl
  · intro bit hbit
    exact (BitfieldDef.getLsbD_validMask hbits).2 ((Validation.getLsbD_allowedMask hbits).1 hbit).1
  · exact hexcluded
  · exact BitfieldDef.cacheOnlyMask_within hbits

end Emission

end Field

/-! ## Catalogs -/

namespace Catalog

open Emission Validation

/-- Masks are safe and consistent. Of a field of a catalog with the type of a bitfield, wrapped or
not: each bit that is shifted to, for an entry that applies to a struct or for a cache-only bit, is
below the width, so the shift loses nothing; the mask of all bits is one less than a power of two;
and the masks of cache-only and of excluded bits are within it. In each struct that the field is
annotated for, the allowed bits are those that are not excluded, and every mask that is written for
the field reads as a number below the width. -/
theorem masks_fit_width (c : Catalog) {registry : Registry} {flat : FlatField}
    {field : ResolvedField} {b : BitfieldDef} (hfield : c.resolveField registry flat = .ok field)
    (hb : field.type.bitfield? = some b) :
    b.width ≤ 64 ∧
    (∀ struct, ∀ entry ∈ field.definition.applicable struct, ∀ bit,
      b.position? entry.option = some bit → bit < b.width ∧ (Mask.bit bit).toNat = 2 ^ bit) ∧
    (∀ name ∈ b.cacheOnly, ∃ bit,
      b.position? name = some bit ∧ bit < b.width ∧ (Mask.bit bit).toNat = 2 ^ bit) ∧
    b.validMask.toNat = 2 ^ b.fields.length - 1 ∧
    b.cacheOnlyMask.Within b.validMask ∧
    ∀ struct annotated, field.annotate struct = .ok annotated →
      annotated.excludedMask.Within b.validMask ∧
      allowedMask b annotated &&& annotated.excludedMask = 0 ∧
      allowedMask b annotated ||| annotated.excludedMask = b.validMask ∧
      ∀ mask, WritesMask struct annotated mask →
        ∃ number, Literal.hexadecimal? (maskLiteral mask).toList = some number ∧
          number < 2 ^ b.width := by
  have hmem := Tables.mem_bitfields_of_resolveType (Tables.resolveField_eq_ok hfield).2 hb
  rcases c.bitfieldFits hmem with ⟨⟨hwidth, hlength⟩, hdeclared⟩
  have hbits : b.fields.length ≤ 64 := by omega
  have hshift : ∀ {name bit}, b.position? name = some bit →
      bit < b.width ∧ (Mask.bit bit).toNat = 2 ^ bit := by
    intro name bit hposition
    have hbit := BitfieldDef.lt_of_position? hposition
    exact ⟨by omega, Mask.toNat_bit (by omega)⟩
  refine ⟨by omega, fun struct entry _ bit => hshift, fun name hname => ?_,
    BitfieldDef.toNat_validMask hbits, BitfieldDef.cacheOnlyMask_within hbits,
    fun struct annotated hannotated => ?_⟩
  · cases hposition : b.position? name with
    | some bit => exact ⟨bit, rfl, hshift hposition⟩
    | none =>
        have hnone := Tables.position?_isNone_iff.1 (by rw [hposition]; rfl)
        exact absurd (hdeclared name hname) hnone
  · have hexcluded := BitfieldDef.excludedIn_within hbits
      (ResolvedField.excludedIn_of_annotate hannotated hb)
    refine ⟨hexcluded, allowedMask_and_excludedMask, allowedMask_or_excludedMask hexcluded,
      fun mask hmask => ⟨mask.toNat, Literal.hexadecimal?_maskLiteral mask, ?_⟩⟩
    have htype : annotated.type.bitfield? = some b := by
      rw [(ResolvedField.annotate_eq_ok hannotated).1]
      exact hb
    have hwithin := hmask.within hbits htype hexcluded
    apply Mask.toNat_lt
    intro bit hbit
    have := (BitfieldDef.getLsbD_validMask hbits).1 (hwithin bit hbit)
    omega

/-- As many marks as a mask has bits, all but one of one name, and both names for cache data. -/
def marks : BitfieldDef where
  name := "Marks"
  fields := List.replicate 63 "spare" ++ ["last"]
  width := 64
  cacheOnly := ["last", "spare"]

/-- Two sets of marks, without the marks that can be named. -/
def markings : FieldDef where
  memberName := "markings"
  type := .named "Marks"
  count := 2
  exclude := [{ option := "last", scope := some ["Card"] }, { option := "spare" }]

/-- Cards with markings. -/
def almanac : Catalog where
  enums := []
  bitfields := [marks]
  structs := [{ name := "Card", fields := [markings] }]
  faultless := by decide

/-- All bits of the markings are in use, and both ends of their masks are excluded. -/
theorem almanac_masks_fit_width :
    ∃ (card : almanac.StructId) (flat : FlatField) (field : ResolvedField)
      (annotated : AnnotatedField),
      flat ∈ (almanac.flatten [] card).fields ∧ almanac.resolveField .engine flat = .ok field ∧
      field.type.bitfield? = some marks ∧
      field.annotate (almanac.struct card).name = .ok annotated ∧
      annotated.excludedMask = 0x8000000000000001 ∧ marks.cacheOnlyMask = 0x8000000000000001 ∧
      marks.validMask.toNat = 2 ^ marks.fields.length - 1 ∧
      allowedMask marks annotated ||| annotated.excludedMask = marks.validMask ∧
      ∃ number, Literal.hexadecimal? (maskLiteral annotated.excludedMask).toList = some number ∧
        number < 2 ^ marks.width := by
  let card : almanac.StructId := ⟨0, by decide⟩
  let flat : FlatField := ⟨"Card", markings⟩
  have hbitfield : (almanac.resolveField .engine flat).map (·.type.bitfield?) =
      .ok (some marks) := by decide +kernel
  have hmask : (almanac.resolveField .engine flat >>= (·.annotate (almanac.struct card).name)).map
      (·.excludedMask) = .ok 0x8000000000000001 := by decide +kernel
  cases hfield : almanac.resolveField .engine flat with
  | error fault => rw [hfield] at hbitfield; cases hbitfield
  | ok field =>
      rw [hfield] at hbitfield hmask
      have hb : field.type.bitfield? = some marks := Except.ok.inj hbitfield
      cases hannotated : field.annotate (almanac.struct card).name with
      | error fault => simp [bind, Except.bind, Except.map, hannotated] at hmask
      | ok annotated =>
          have hexcluded : annotated.excludedMask = 0x8000000000000001 := by
            simpa [bind, Except.bind, Except.map, hannotated] using hmask
          rcases almanac.masks_fit_width hfield hb with ⟨_, _, _, hvalid, _, hannotations⟩
          rcases hannotations _ _ hannotated with ⟨_, _, hunion, hnumbers⟩
          have htype : annotated.type.bitfield? = some marks := by
            rw [(ResolvedField.annotate_eq_ok hannotated).1]
            exact hb
          exact ⟨card, flat, field, annotated, by decide +kernel, hfield, hb, hannotated, hexcluded,
            by decide +kernel, hvalid, hunion,
            hnumbers _ (.editor (Value.accessor_of_bitfield htype))⟩

end Catalog
end TagSchema
