import TagSchema.Emission.Pass
import TagSchema.Proofs.Masks

/-!
# Agreement of writing and reading

Authoring data is written by two methods and read by two others, each of which goes through the
fields in its own way. Field by field they agree: what is written behind the base is what is read
from there, every field is put into the base once, and the same bits are cleared on the way out and
on the way in. All of this is said of the code that is printed.

Main results:

- `Authoring.writeTrailingWrite_ofKind`, `Authoring.writeTrailingRead_ofKind`: the code for what is
  stored behind the base.
- `Authoring.getLsbD_cacheOnlyMask_iff`: the bits that are cleared.
- `Authoring.treated`: the code of all four methods for a field, by what the field stores.
- `Authoring.writer_agrees_with_reader`: both directions agree, for every struct.
-/

namespace TagSchema
namespace Emission
namespace Authoring

variable {field : AnnotatedField}

/-! ## Code for what is behind the base -/

/-- The code that records a place in the base. -/
def recorded (kind : Kind) (place : Place) : String :=
  match kind with
  | .dependency => "base." ++ place.member ++ " = self." ++ place.member ++ ".hek_base();\n"
  | .data =>
    "base." ++ place.member ++ " = hek::DataOffset::with_size(self." ++ place.member ++ ".len());\n"
  | .reflexive _ =>
    "base." ++ place.member ++ " = hek::Reflexive::with_count(self." ++ place.member ++ ".len());\n"

/-- The code that writes a place behind the base. -/
def written (kind : Kind) (place : Place) : String :=
  match kind with
  | .dependency => "self." ++ place.member ++ ".write_hek_path(out);\n"
  | .data => "out.extend_from_slice(&self." ++ place.member ++ ");\n"
  | .reflexive _ =>
    ended [
      "for element in &self." ++ place.member ++ " \x7b",
      "    out.extend_from_slice(hek::as_bytes(&element.generate_hek_base()));",
      "\x7d",
      "for element in &self." ++ place.member ++ " \x7b",
      "    element.generate_hek_trailing(out);",
      "\x7d"]

/-- The code that reads a place from behind the base. -/
def taken (kind : Kind) (place : Place) : String :=
  match kind with
  | .dependency =>
    "self." ++ place.member ++ " = Dependency::read_hek(&base." ++ place.member ++
      ", data, cursor)?;\n"
  | .data =>
    "self." ++ place.member ++ " = hek::read_bytes(data, cursor, base." ++ place.member ++
      ".size())?.to_vec();\n"
  | .reflexive element =>
    "\x7b\n" ++ shifted (ended [
      "let count = base." ++ place.member ++ ".count();",
      "let mut elements = Vec::with_capacity(count);",
      "let mut bases = Vec::with_capacity(count);",
      "for _ in 0..count \x7b",
      "    let (element, element_base) = " ++ element ++ "::parse_hek_base(data, cursor)?;",
      "    elements.push(element);",
      "    bases.push(element_base);",
      "\x7d",
      "for (element, element_base) in elements.iter_mut().zip(&bases) \x7b",
      "    element.parse_hek_trailing(element_base, data, cursor, postprocess)?;",
      "\x7d",
      "self." ++ place.member ++ " = elements;"]) ++ "\x7d\n"

/-- How what is behind the base is recorded in it. -/
def BaseWrite.ofKind : Kind → BaseWrite
  | .dependency => dependency
  | .data => data
  | .reflexive _ => reflexive

/-- How what is behind the base is written. -/
def TrailingWrite.ofKind : Kind → TrailingWrite
  | .dependency => dependency
  | .data => data
  | .reflexive _ => reflexive

/-- How what is behind the base is read. -/
def TrailingRead.ofKind : Kind → TrailingRead
  | .dependency => dependency
  | .data => data
  | .reflexive element => reflexive element

/-- The record of a place, as it is printed. -/
theorem writeBaseWrite_ofKind (kind : Kind) : writeBaseWrite (.ofKind kind) = recorded kind := by
  funext place
  cases kind <;> simp [BaseWrite.ofKind, writeBaseWrite, recorded, Place.own, Place.of_eq,
    ← String.toList_inj]

/-- What is written behind the base, as it is printed. -/
theorem writeTrailingWrite_ofKind (kind : Kind) :
    writeTrailingWrite (.ofKind kind) = written kind := by
  funext place
  cases kind with
  | dependency =>
      change place.own ++ ".write_hek_path(out);\n" =
        "self." ++ place.member ++ ".write_hek_path(out);\n"
      simp [Place.own, Place.of_eq, ← String.toList_inj]
  | data =>
      change "out.extend_from_slice(&" ++ place.own ++ ");\n" =
        "out.extend_from_slice(&self." ++ place.member ++ ");\n"
      simp [Place.own, Place.of_eq, ← String.toList_inj]
  | reflexive element =>
      have hhead : "for element in &" ++ place.own ++ " \x7b" =
          "for element in &self." ++ place.member ++ " \x7b" := by
        simp [Place.own, Place.of_eq, ← String.toList_inj]
      unfold TrailingWrite.ofKind writeTrailingWrite written
      dsimp only
      rw [render_eq_ended]
      simp only [List.map_append, map_spaced_block, map_spaced_line, List.map_cons, List.map_nil,
        List.cons_append, List.nil_append, hhead, String.reduceAppend]

/-- What is read from behind the base, as it is printed. -/
theorem writeTrailingRead_ofKind (kind : Kind) : writeTrailingRead (.ofKind kind) = taken kind := by
  funext place
  cases kind with
  | dependency =>
      simp [TrailingRead.ofKind, writeTrailingRead, taken, Place.own, Place.of_eq,
        ← String.toList_inj]
  | data =>
      simp [TrailingRead.ofKind, writeTrailingRead, taken, Place.own, Place.of_eq,
        ← String.toList_inj]
  | reflexive element =>
      have hcount : "let count = " ++ place.of "base" ++ ".count();" =
          "let count = base." ++ place.member ++ ".count();" := by
        simp [Place.of_eq, ← String.toList_inj]
      have hparse : "    " ++ ("let (element, element_base) = " ++ element ++
          "::parse_hek_base(data, cursor)?;") =
          "    let (element, element_base) = " ++ element ++
            "::parse_hek_base(data, cursor)?;" := by
        simp [← String.toList_inj]
      have hassign : place.own ++ " = elements;" = "self." ++ place.member ++ " = elements;" := by
        simp [Place.own, Place.of_eq, ← String.toList_inj]
      unfold TrailingRead.ofKind writeTrailingRead taken readElements scope
      dsimp only
      rw [enclose_eq, render_eq_ended]
      simp only [List.map_append, map_spaced_block, map_spaced_line, List.map_cons, List.map_nil,
        List.cons_append, List.nil_append, hcount, hparse, hassign, String.reduceAppend]

/-- There is code that writes every kind. -/
theorem written_ne_empty (kind : Kind) (place : Place) : written kind place ≠ "" := by
  unfold written
  cases kind <;> simp [ended, String.join_cons, ← String.toList_inj]

/-- There is code that reads every kind. -/
theorem taken_ne_empty (kind : Kind) (place : Place) : taken kind place ≠ "" := by
  unfold taken
  cases kind <;> simp [← String.toList_inj]

/-! ## Cleared bits -/

/-- A bit is cleared in a field: the field is a bitfield without wrappers, and a name for cache data
has its first position there. -/
def ClearsBit (field : AnnotatedField) (bit : Nat) : Prop :=
  field.type.isPlain = true ∧ bit < 64 ∧
    ∃ b name, field.type.bitfield? = some b ∧ name ∈ b.cacheOnly ∧ b.fields.idxOf? name = some bit

/-- Bits are cleared in a field. -/
def clearsBits (field : AnnotatedField) : Bool :=
  field.cacheOnlyMask ≠ 0 && field.type.isPlain

/-- The cache-only bits of a field without wrappers are those that are cleared. -/
theorem getLsbD_cacheOnlyMask_iff (hplain : field.type.isPlain = true) {bit : Nat} :
    field.cacheOnlyMask.getLsbD bit = true ↔ ClearsBit field bit := by
  unfold AnnotatedField.cacheOnlyMask ClearsBit
  cases hb : field.type.bitfield? with
  | none => simp
  | some b =>
      simp only [BitfieldDef.cacheOnlyMask, Mask.getLsbD_ofPositions, List.mem_filterMap]
      constructor
      · rintro ⟨hroom, name, hname, hposition⟩
        exact ⟨hplain, hroom, b, name, rfl, hname, hposition⟩
      · rintro ⟨_, hroom, other, name, hother, hname, hposition⟩
        cases hother
        exact ⟨hroom, name, hname, hposition⟩

/-- Bits are cleared in a field exactly when some bit is. -/
theorem clearsBits_iff : clearsBits field = true ↔ ∃ bit, ClearsBit field bit := by
  rw [clearsBits, Bool.and_eq_true, decide_eq_true_eq]
  constructor
  · rintro ⟨hmask, hplain⟩
    by_contra hnone
    rw [not_exists] at hnone
    apply hmask
    apply BitVec.eq_of_getLsbD_eq
    intro bit _
    rw [Bool.eq_false_iff.2 fun hbit => hnone bit ((getLsbD_cacheOnlyMask_iff hplain).1 hbit)]
    simp
  · rintro ⟨bit, hbit⟩
    refine ⟨fun hzero => ?_, hbit.1⟩
    have hset := (getLsbD_cacheOnlyMask_iff hbit.1).2 hbit
    rw [hzero] at hset
    simp at hset

/-- Bits are cleared only in what is stored inside. -/
theorem kind_of_clearsBit {bit : Nat} (h : ClearsBit field bit) : Kind.of? field.type = none := by
  obtain ⟨_, _, b, _, hb, _⟩ := h
  unfold FieldType.bitfield? at hb
  unfold Kind.of?
  cases hbase : field.type.base with
  | named ident kind native => rfl
  | _ => simp [hbase] at hb

/-! ## Single fields -/

/-- The code of the four methods for a field: what puts it into the base, what writes it behind the
base, what takes it out of the base, and what reads it from behind the base. -/
structure FieldCode where
  intoBase : String
  behindBase : String := ""
  fromBase : String := ""
  fromBehind : String := ""
deriving DecidableEq, Repr

/-- How both directions treat a field. Inside the base it is assigned as a whole, or for each
element without some bits, and these are cleared again on the way in; otherwise the base has a
record of it for each element, and what it stores behind the base is written and read for each
element. -/
inductive Treated (field : AnnotatedField) : FieldCode → Prop where
  | converted (hkind : Kind.of? field.type = none) (hkept : ∀ bit, ¬ ClearsBit field bit) :
      Treated field {
        intoBase := conversion field "base" "self"
        fromBase := conversion field "value" "base" }
  | cleared {literal : String} {mask : Mask} (hkind : Kind.of? field.type = none)
      (hcleared : ∃ bit, ClearsBit field bit)
      (hliteral : Literal.hexadecimal? literal.toList = some mask.toNat)
      (hmask : ∀ bit, mask.getLsbD bit = true ↔ ClearsBit field bit) :
      Treated field {
        intoBase := onEach field (clearedOut literal)
        fromBase := conversion field "value" "base" ++ onEach field (clearedIn literal) }
  | behind {kind : Kind} (hkind : Kind.of? field.type = some kind)
      (hkept : ∀ bit, ¬ ClearsBit field bit) :
      Treated field {
        intoBase := onEach field (recorded kind)
        behindBase := onEach field (written kind)
        fromBehind := onEach field (taken kind) }

/-- The code that is printed for a field. -/
def codeOf (field : AnnotatedField) : FieldCode where
  intoBase := (fieldWrite field).base.render writeBaseWrite
  behindBase := ((fieldWrite field).trailing.map (Step.render writeTrailingWrite)).getD ""
  fromBase := String.join ((fieldRead field).base.map (Step.render writeBaseRead))
  fromBehind := ((fieldRead field).trailing.map (Step.render writeTrailingRead)).getD ""

/-- What is stored behind the base is recorded in it, written and read for each element. -/
theorem steps_of_behind {kind : Kind} (h : Kind.of? field.type = some kind) :
    fieldWrite field =
        { base := .each field (.ofKind kind), trailing := some (.each field (.ofKind kind)) } ∧
      fieldRead field = { trailing := some (.each field (.ofKind kind)) } := by
  obtain ⟨hinline, hdependency, hdata, helement⟩ := tests_of_kind h
  unfold fieldWrite fieldRead
  cases kind with
  | dependency => simp [hinline, hdependency, BaseWrite.ofKind, TrailingWrite.ofKind,
      TrailingRead.ofKind]
  | data => simp [hinline, hdependency, hdata, BaseWrite.ofKind, TrailingWrite.ofKind,
      TrailingRead.ofKind]
  | reflexive element =>
      rw [helement element rfl]
      simp [hinline, hdependency, hdata, BaseWrite.ofKind, TrailingWrite.ofKind,
        TrailingRead.ofKind]

/-- What is stored inside is put into the base, and taken out of it as a whole; where bits are
cleared, they are cleared for each element in both directions. -/
theorem steps_of_inside (hinline : isInline field = true) :
    fieldWrite field =
        { base := if clearsBits field then .each field (.clear field.cacheOnlyMask)
            else .whole field (.convert field.type.arrayLength?.isSome) } ∧
      fieldRead field =
        { base := .whole field (.convert field.type.arrayLength?.isSome) ::
            if clearsBits field then [.each field (.clear field.cacheOnlyMask)] else [] } := by
  have hmask : (decide (field.cacheOnlyMask ≠ 0) && field.type.isPlain) = clearsBits field := rfl
  unfold fieldWrite fieldRead
  simp only [hinline, Bool.true_and, hmask, if_true, and_true]
  split <;> rfl

/-- Both directions treat a field by what it stores. -/
theorem treated (field : AnnotatedField) : Treated field (codeOf field) := by
  cases hkind : Kind.of? field.type with
  | some kind =>
      obtain ⟨hwrite, hread⟩ := steps_of_behind hkind
      have hcode : codeOf field = {
          intoBase := onEach field (recorded kind)
          behindBase := onEach field (written kind)
          fromBehind := onEach field (taken kind) } := by
        unfold codeOf
        rw [hwrite, hread]
        simp only [Option.map_some, Option.getD_some, Step.render_each, writeBaseWrite_ofKind,
          writeTrailingWrite_ofKind, writeTrailingRead_ofKind]
        rfl
      rw [hcode]
      refine .behind hkind fun bit hbit => ?_
      rw [kind_of_clearsBit hbit] at hkind
      cases hkind
  | none =>
      obtain ⟨hwrite, hread⟩ := steps_of_inside (isInline_iff.2 hkind)
      have hinto : writeBaseWrite (.convert field.type.arrayLength?.isSome) ⟨field.ident, false⟩ =
          conversion field "base" "self" := convert_eq_conversion field "base" "self"
      have hfrom : writeBaseRead (.convert field.type.arrayLength?.isSome) ⟨field.ident, false⟩ =
          conversion field "value" "base" := convert_eq_conversion field "value" "base"
      by_cases hcleared : clearsBits field = true
      · have hcode : codeOf field = {
            intoBase := onEach field (clearedOut (maskLiteral field.cacheOnlyMask))
            fromBase := conversion field "value" "base" ++
              onEach field (clearedIn (maskLiteral field.cacheOnlyMask)) } := by
          unfold codeOf
          rw [hwrite, hread, if_pos hcleared, if_pos hcleared]
          simp [Step.render_each, Step.render_whole, writeBaseWrite_clear, writeBaseRead_clear,
            hfrom, String.join_cons]
        rw [hcode]
        obtain ⟨bit, hbit⟩ := clearsBits_iff.1 hcleared
        exact .cleared hkind ⟨bit, hbit⟩ (Literal.hexadecimal?_maskLiteral _)
          fun bit => getLsbD_cacheOnlyMask_iff hbit.1
      · have hcode : codeOf field = {
            intoBase := conversion field "base" "self"
            fromBase := conversion field "value" "base" } := by
          unfold codeOf
          rw [hwrite, hread, if_neg hcleared, if_neg hcleared]
          simp [Step.render_whole, hinto, hfrom, String.join_cons]
        rw [hcode]
        exact .converted hkind fun bit hbit => hcleared (clearsBits_iff.2 ⟨bit, hbit⟩)

/-- A field is assigned as a whole by a text. -/
theorem conversion_ne_empty (field : AnnotatedField) (destination source : String) :
    conversion field destination source ≠ "" := by
  simp [conversion, String.append_eq_empty_iff]

namespace Treated

variable {code : FieldCode}

/-- A field has code behind the base in both directions, or in none, by what it stores there. -/
theorem behind_iff (h : Treated field code) :
    (code.behindBase ≠ "" ↔ (Kind.of? field.type).isSome = true) ∧
      (code.fromBehind ≠ "" ↔ (Kind.of? field.type).isSome = true) := by
  cases h with
  | converted hkind => simp [hkind]
  | cleared hkind => simp [hkind]
  | @behind kind hkind =>
      simp [hkind, onEach_ne_empty (written_ne_empty kind), onEach_ne_empty (taken_ne_empty kind)]

/-- A field is taken out of the base exactly when it stores nothing behind it. -/
theorem fromBase_iff (h : Treated field code) :
    code.fromBase ≠ "" ↔ Kind.of? field.type = none := by
  cases h with
  | converted hkind => simp [hkind, conversion_ne_empty]
  | cleared hkind => simp [hkind, conversion_ne_empty, String.append_eq_empty_iff]
  | behind hkind => simp [hkind]

end Treated

/-! ## Bodies -/

variable {s : Subject}

/-- The method that makes the base goes through the visible fields. -/
theorem renderAll_baseWriteBody (s : Subject) :
    Piece.renderAll writeBaseWrite (baseWriteBody s) =
      "let mut base = <" ++ s.wireType byteOrder ++ ">::default();\n" ++
        String.join ((s.fields.filter s.isVisible).map fun field => (codeOf field).intoBase) ++
        "base\n" := by
  simp only [baseWriteBody, Piece.renderAll_append, Piece.renderAll_text, Piece.renderAll_steps]
  rfl

/-- The method that writes behind the base goes through the visible fields. -/
theorem renderAll_trailingWriteBody (s : Subject) :
    Piece.renderAll writeTrailingWrite (trailingWriteBody s) =
      String.join ((s.fields.filter s.isVisible).map fun field => (codeOf field).behindBase) := by
  rw [trailingWriteBody, Piece.renderAll_filterMap]
  rfl

/-- The method that reads the base goes through all fields. -/
theorem renderAll_baseReadBody (s : Subject) :
    Piece.renderAll writeBaseRead (baseReadBody s) =
      "let base: " ++ s.wireType byteOrder ++ " = hek::read_struct(data, cursor)?;\n" ++
        "let mut value = Self::default();\n" ++
        String.join (s.fields.map fun field => (codeOf field).fromBase) ++
          "Ok((value, base))\n" := by
  simp only [baseReadBody, Piece.renderAll_append, Piece.renderAll_texts, Piece.renderAll_text,
    Piece.renderAll_flatMap, Piece.renderAll_map_step]
  rfl

/-- The method that reads from behind the base goes through all fields. -/
theorem renderAll_trailingReadBody (s : Subject) :
    Piece.renderAll writeTrailingRead (trailingReadBody s) =
      String.join (s.fields.map fun field => (codeOf field).fromBehind) ++
        (if s.capabilities.has .postprocessHekData then
          "if postprocess \x7b\n" ++ shifted (called s .postprocessHekData "self") ++ "\x7d\n"
        else
          "") ++
        "Ok(())\n" := by
  have hcall : s.hookCall .postprocessHekData "self" "" = called s .postprocessHekData "self" :=
    hookCall_eq_called s .postprocessHekData "self" ""
  rw [trailingReadBody, Piece.renderAll_append, Piece.renderAll_append, Piece.renderAll_text,
    Piece.renderAll_filterMap, Piece.renderAll_callWhen, hcall]
  rfl

/-- A field is visible unless it is hidden and hidden fields are not revealed. -/
theorem isVisible_iff : s.isVisible field = true ↔
    field.definition.hidden = false ∨ s.revealHidden = true := by
  rw [Subject.isVisible, Bool.or_eq_true, Bool.not_eq_true']

/-! ## Agreement -/

/-- The methods that write the authoring data of a struct and those that read it hold some code for
each field, and treat the fields alike. -/
structure Agreement (s : Subject) (code : AnnotatedField → FieldCode) : Prop where
  /-- The methods that write hold the code of the visible fields, in order. -/
  writes : Pass.standardEmit s .saveHekData = .ok { code := implFor s [
    method ("pub fn generate_hek_base(&self) -> " ++ s.wireType byteOrder) (
      "let mut base = <" ++ s.wireType byteOrder ++ ">::default();\n" ++
      String.join ((s.fields.filter s.isVisible).map fun field => (code field).intoBase) ++
      "base\n"),
    method "pub fn generate_hek_trailing(&self, out: &mut Vec<u8>)"
      (String.join ((s.fields.filter s.isVisible).map fun field => (code field).behindBase)),
    dataWriter, fileWriter] }
  /-- The methods that read hold the code of all fields, in order. -/
  reads : Pass.standardEmit s .readHekData = .ok { code := implFor s [
    method ("pub fn parse_hek_base(data: &[u8], cursor: &mut usize) -> Result<(Self, " ++
        s.wireType byteOrder ++ "), TagError>") (
      "let base: " ++ s.wireType byteOrder ++ " = hek::read_struct(data, cursor)?;\n" ++
      "let mut value = Self::default();\n" ++
      String.join (s.fields.map fun field => (code field).fromBase) ++ "Ok((value, base))\n"),
    method ("pub fn parse_hek_trailing(&mut self, base: &" ++ s.wireType byteOrder ++
        ", data: &[u8], cursor: &mut usize, postprocess: bool) -> Result<(), TagError>") (
      String.join (s.fields.map fun field => (code field).fromBehind) ++
      (if s.capabilities.has .postprocessHekData then
        "if postprocess \x7b\n" ++ shifted (called s .postprocessHekData "self") ++ "\x7d\n"
      else
        "") ++
      "Ok(())\n"),
    dataReader] }
  /-- Each field is assigned once in the base, and what it stores behind the base is written and
  read with the same kind and in the same loop. The same bits are cleared on the way out and on the
  way in. -/
  treated : ∀ field, Treated field (code field)
  /-- A field is visible unless it is hidden and hidden fields are not revealed. -/
  visible : ∀ field, s.isVisible field = true ↔
    field.definition.hidden = false ∨ s.revealHidden = true
  /-- The fields that are written behind the base are the visible ones among those that are read
  from there, in the same order. -/
  trailingFields :
    (s.fields.filter s.isVisible).filter (fun field => !(code field).behindBase.isEmpty) =
      (s.fields.filter fun field => !(code field).fromBehind.isEmpty).filter s.isVisible
  /-- Every field is stored inside, and then it is read from the base only, or behind the base, and
  then it is read from there only. -/
  insideOrBehind : ∀ field,
    (isInline field = true ∧ (code field).fromBase ≠ "" ∧ (code field).fromBehind = "") ∨
    (isInline field = false ∧ (code field).fromBase = "" ∧ (code field).fromBehind ≠ "")
  /-- When hidden fields are revealed, or when there are none, both directions treat the same fields
  in the same order. -/
  sameFields : s.revealHidden = true ∨ (∀ field ∈ s.fields, field.definition.hidden = false) →
    s.fields.filter s.isVisible = s.fields

/-- The methods that write authoring data agree with those that read it, for every struct and with
hidden fields revealed or not. -/
theorem writer_agrees_with_reader (s : Subject) : ∃ code, Agreement s code := by
  refine ⟨codeOf, ?_, ?_, treated, fun field => isVisible_iff, ?_, ?_, ?_⟩
  · rw [← renderAll_baseWriteBody, ← renderAll_trailingWriteBody]
    rfl
  · rw [← renderAll_baseReadBody, ← renderAll_trailingReadBody]
    rfl
  · rw [List.filter_filter, List.filter_filter]
    apply List.filter_congr
    intro field _
    have hsame : (codeOf field).behindBase.isEmpty = (codeOf field).fromBehind.isEmpty := by
      obtain ⟨hwritten, hread⟩ := (treated field).behind_iff
      rw [Bool.eq_iff_iff, String.isEmpty_iff, String.isEmpty_iff, ← not_iff_not]
      exact hwritten.trans hread.symm
    rw [hsame, Bool.and_comm]
  · intro field
    have hbase := (treated field).fromBase_iff
    have hbehind := (treated field).behind_iff.2
    cases hkind : Kind.of? field.type with
    | none => exact Or.inl (by simp_all [isInline_iff])
    | some kind => exact Or.inr (by simp_all [(tests_of_kind hkind).1])
  · intro hrevealed
    rw [List.filter_eq_self]
    intro field hfield
    rw [isVisible_iff]
    exact hrevealed.symm.imp_left fun hnone => hnone field hfield

end Authoring
end Emission
end TagSchema
