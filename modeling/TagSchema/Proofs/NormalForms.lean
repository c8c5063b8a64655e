import TagSchema.Proofs.Identifiers
import TagSchema.Proofs.Naming
import TagSchema.Proofs.Wrappers

/-!
# Normal forms of types

The type that a field resolves to has its wrappers in one order, each at most once: a base, a flag
around it, a pair of bounds around that, and an array around all. The array comes from the count of
the field, the bounds and the flag from its modifiers, and the base from what it declares. The byte
order of a named base is the only trace that a modifier leaves inside the base.

Main results:

- `NormalForm.type_injective`: a type has at most one normal form.
- `Catalog.namedKind?_of_mem`: a definition is found before an engine type of the same name.
- `Declares.unique`: a declaration stands for at most one base.
- `Catalog.resolved_types_are_normal`: the type of a field is in the normal form that the field asks
  for.
-/

namespace TagSchema

/-! ## Normal forms -/

namespace FieldType

/-- There are bounds in the type. -/
def hasBounds : FieldType → Bool
  | array inner _ => inner.hasBounds
  | bounds _ => true
  | flagged inner => inner.hasBounds
  | _ => false

/-- There is a flag in the type. -/
def hasFlag : FieldType → Bool
  | array inner _ => inner.hasFlag
  | bounds inner => inner.hasFlag
  | flagged _ => true
  | _ => false

/-- Where there is no wrapper, none is found. -/
theorem unwrapped_of_isBare {type : FieldType} (h : type.isBare = true) :
    type.base = type ∧ type.hasBounds = false ∧ type.hasFlag = false := by
  cases type with
  | array => cases h
  | bounds => cases h
  | flagged => cases h
  | _ => exact ⟨rfl, rfl, rfl⟩

end FieldType

/-- A type in normal form: a base without wrappers, perhaps behind a flag, perhaps as a pair of
bounds, and perhaps repeated. -/
structure NormalForm where
  length : Option Nat
  bounded : Bool
  flagged : Bool
  base : FieldType
  bare : base.isBare = true

namespace NormalForm

variable (form : NormalForm)

/-- The base with its flag. -/
def number : FieldType :=
  if form.flagged then .flagged form.base else form.base

/-- The base with its flag and bounds. -/
def element : FieldType :=
  if form.bounded then .bounds form.number else form.number

/-- The type that is in this form. -/
def type : FieldType :=
  match form.length with
  | some length => .array form.element length
  | none => form.element

theorem arrayFree_element : form.element.arrayFree = true := by
  have hbase := FieldType.arrayFree_of_isBare form.bare
  unfold element number
  cases form.bounded <;> cases form.flagged <;> exact hbase

theorem base_element : form.element.base = form.base := by
  unfold element number
  cases form.bounded <;> cases form.flagged <;> exact (FieldType.unwrapped_of_isBare form.bare).1

theorem base_type : form.type.base = form.base := by
  unfold type
  split
  · exact form.base_element
  · exact form.base_element

/-- The array is the outermost wrapper. -/
theorem element_type : form.type.element = form.element := by
  have hfree := form.arrayFree_element
  unfold type
  split
  · rfl
  · cases helement : form.element with
    | array => simp [helement, FieldType.arrayFree] at hfree
    | _ => rfl

/-- The length of a normal form is that of the array that its type has. -/
theorem arrayLength?_type : form.type.arrayLength? = form.length := by
  have hfree := form.arrayFree_element
  unfold type
  split
  · rename_i hlength
    rw [hlength]
    rfl
  · rename_i hlength
    rw [hlength]
    cases helement : form.element with
    | array => simp [helement, FieldType.arrayFree] at hfree
    | _ => rfl

theorem hasBounds_type : form.type.hasBounds = form.bounded := by
  have hbase := (FieldType.unwrapped_of_isBare form.bare).2.1
  have helement : form.element.hasBounds = form.bounded := by
    unfold element number
    cases form.bounded <;> cases form.flagged <;> simp [FieldType.hasBounds, hbase]
  unfold type
  split <;> exact helement

theorem hasFlag_type : form.type.hasFlag = form.flagged := by
  have hbase := (FieldType.unwrapped_of_isBare form.bare).2.2
  have helement : form.element.hasFlag = form.flagged := by
    unfold element number
    cases form.bounded <;> cases form.flagged <;> simp [FieldType.hasFlag, hbase]
  unfold type
  split <;> exact helement

/-- A type has at most one normal form. -/
theorem type_injective : Function.Injective type := by
  intro form other h
  have hlength : form.length = other.length := by
    rw [← form.arrayLength?_type, h, other.arrayLength?_type]
  have hbase : form.base = other.base := by
    rw [← form.base_type, h, other.base_type]
  have hbounded : form.bounded = other.bounded := by
    rw [← form.hasBounds_type, h, other.hasBounds_type]
  have hflagged : form.flagged = other.flagged := by
    rw [← form.hasFlag_type, h, other.hasFlag_type]
  cases form
  cases other
  simp_all

end NormalForm

/-! ## Bases -/

/-- The kind of type that a definition declares. -/
def Definition.kind : Definition → NamedKind
  | .enumeration e => .enumeration e
  | .bitfield b => .bitfield b
  | .struct s => .struct s.name

namespace Catalog

variable (c : Catalog) (registry : Registry)

/-- A name that is defined is taken from the catalog, whatever the registry says of it. -/
theorem namedKind?_of_mem {d : Definition} (hd : d ∈ c.definitions) :
    c.namedKind? registry d.name = some d.kind := by
  have hfound := c.definitionNamed?_eq_some_iff.2 ⟨hd, rfl⟩
  rw [Tables.definitionNamed?, Option.map_eq_some_iff] at hfound
  rcases hfound with ⟨found, hfound, rfl⟩
  rw [Tables.namedKind?, hfound]
  cases found <;> rfl

/-- A name that is not defined is taken from the registry. -/
theorem namedKind?_of_forall_ne {name : String} (h : ∀ d ∈ c.definitions, d.name ≠ name) :
    c.namedKind? registry name = (registry.get? name).map .engine := by
  have hnone : c.typeNamed? name = none := by
    cases hfound : c.typeNamed? name with
    | none => rfl
    | some found =>
        have hentry : c.definitionNamed? name = some (c.entry found) := by
          rw [Tables.definitionNamed?, hfound, Option.map_some]
        rcases c.definitionNamed?_eq_some_iff.1 hentry with ⟨hd, hname⟩
        exact absurd hname (h _ hd)
  rw [Tables.namedKind?, hnone]

end Catalog

namespace FieldType

/-- A named base in a byte order; other bases have none. -/
def inOrder (native : Bool) : FieldType → FieldType
  | named ident kind _ => named ident kind native
  | type => type

/-- The byte order that is set last counts. -/
theorem inOrder_inOrder (first second : Bool) (type : FieldType) :
    (type.inOrder first).inOrder second = type.inOrder second := by
  cases type <;> rfl

theorem isBare_inOrder (native : Bool) (type : FieldType) :
    (type.inOrder native).isBare = type.isBare := by
  cases type <;> rfl

/-- A base takes the native order by itself, since nothing is around it. -/
theorem inNativeOrder_of_isBare {type : FieldType} (h : type.isBare = true) :
    type.inNativeOrder = type.inOrder true := by
  cases type with
  | flagged => cases h
  | _ => rfl

end FieldType

/-- The base that a declared type stands for, not in native order. A nested sequence is declared
together with its target. A name stands for the definition that has it, and for an engine type only
if there is no such definition. -/
inductive Declares (c : Catalog) (registry : Registry) (target : Option String) :
    DeclaredType → FieldType → Prop where
  | int (bits : Nat) (signed : Bool) :
      Declares c registry target (.int bits signed) (.int bits signed)
  | float : Declares c registry target .float .float
  | dependency : Declares c registry target .dependency .dependency
  | data : Declares c registry target .data .data
  | reflexive {name ident : String} (htarget : target = some name)
      (hstruct : ∃ s ∈ c.structs, s.name = name) (hident : Text.identifier? name = some ident) :
      Declares c registry target .reflexive (.reflexive name ident)
  | defined {name ident : String} {d : Definition} (hd : d ∈ c.definitions) (hname : d.name = name)
      (hident : Text.identifier? name = some ident) :
      Declares c registry target (.named name) (.named ident d.kind false)
  | engine {name ident : String} {valueClass : ValueClass}
      (hfree : ∀ d ∈ c.definitions, d.name ≠ name) (hclass : registry.get? name = some valueClass)
      (hident : Text.identifier? name = some ident) :
      Declares c registry target (.named name) (.named ident (.engine valueClass) false)

namespace Declares

variable {c : Catalog} {registry : Registry} {target : Option String} {declared : DeclaredType}
  {base other : FieldType}

/-- What a declared type stands for has no wrapper. -/
theorem isBare (h : Declares c registry target declared base) : base.isBare = true := by
  cases h <;> rfl

/-- What a declared type stands for has no byte order of its own. -/
theorem inOrder_false (h : Declares c registry target declared base) :
    base.inOrder false = base := by
  cases h <;> rfl

/-- A declaration stands for at most one base. -/
theorem unique (h : Declares c registry target declared base)
    (hother : Declares c registry target declared other) : base = other := by
  cases h with
  | int bits signed =>
      cases hother
      rfl
  | float =>
      cases hother
      rfl
  | dependency =>
      cases hother
      rfl
  | data =>
      cases hother
      rfl
  | reflexive htarget hstruct hident =>
      cases hother with
      | reflexive htarget' hstruct' hident' =>
          cases htarget.symm.trans htarget'
          cases hident.symm.trans hident'
          rfl
  | defined hd hname hident =>
      cases hother with
      | defined hd' hname' hident' =>
          cases hident.symm.trans hident'
          rw [c.distinctNames.definition_injective hd hd' (hname.trans hname'.symm)]
      | engine hfree hclass hident' => exact absurd hname (hfree _ hd)
  | engine hfree hclass hident =>
      cases hother with
      | defined hd hname hident' => exact absurd hname (hfree _ hd)
      | engine hfree' hclass' hident' =>
          cases hclass.symm.trans hclass'
          cases hident.symm.trans hident'
          rfl

/-- The target matters for nested sequences only. -/
theorem of_target {target' : Option String} (h : Declares c registry target declared base)
    (htarget : declared = .reflexive → target' = target) :
    Declares c registry target' declared base := by
  cases h with
  | int bits signed => exact .int bits signed
  | float => exact .float
  | dependency => exact .dependency
  | data => exact .data
  | reflexive hname hstruct hident => exact .reflexive ((htarget rfl).trans hname) hstruct hident
  | defined hd hname hident => exact .defined hd hname hident
  | engine hfree hclass hident => exact .engine hfree hclass hident

/-- What a name stands for is found by the look-up. -/
theorem named_of_namedKind? {name ident : String} {kind : NamedKind}
    (hkind : c.namedKind? registry name = some kind) (hident : Text.identifier? name = some ident) :
    Declares c registry target (.named name) (.named ident kind false) := by
  by_cases hfree : ∀ d ∈ c.definitions, d.name ≠ name
  · rw [c.namedKind?_of_forall_ne registry hfree, Option.map_eq_some_iff] at hkind
    rcases hkind with ⟨valueClass, hclass, rfl⟩
    exact .engine hfree hclass hident
  · push Not at hfree
    rcases hfree with ⟨d, hd, rfl⟩
    rw [c.namedKind?_of_mem registry hd] at hkind
    cases hkind
    exact .defined hd rfl hident

end Declares

/-! ## Types of fields -/

namespace FieldDef

variable (field : FieldDef) {base : FieldType}

/-- The length of the array that a field asks for. -/
def arrayLength? : Option Nat :=
  if 1 < field.count then some field.count else none

/-- A field asks for an array when it has more than one value. -/
theorem arrayLength?_eq_some_iff (length : Nat) :
    field.arrayLength? = some length ↔ 1 < field.count ∧ length = field.count := by
  unfold arrayLength?
  split
  · simp [*, eq_comm]
  · simp [*]

/-- An array with a length that a field asks for comes from its count. -/
theorem type_eq_repeated {form : NormalForm} (h : form.length = field.arrayLength?) :
    form.type = form.element.repeated field.count := by
  unfold NormalForm.type FieldType.repeated
  rw [h, arrayLength?]
  by_cases hcount : 1 < field.count
  · rw [if_pos hcount, if_pos hcount]
  · rw [if_neg hcount, if_neg hcount]

/-- The normal form that a field asks for around a base. -/
def form (base : FieldType) (h : base.isBare = true) : NormalForm where
  length := field.arrayLength?
  bounded := field.bounds
  flagged := field.flagged
  base := base.inOrder field.compound
  bare := by rw [FieldType.isBare_inOrder, h]

/-- Native order is forced behind the flag, so that the flag may as well come last. -/
theorem ordered_eq (hbare : base.isBare = true) (horder : base.inOrder false = base) :
    (if field.compound then (if field.flagged then FieldType.flagged base else base).inNativeOrder
      else if field.flagged then .flagged base else base) =
      if field.flagged then .flagged (base.inOrder field.compound)
      else base.inOrder field.compound := by
  have hnative := FieldType.inNativeOrder_of_isBare hbare
  cases field.compound <;> cases field.flagged <;> simp [FieldType.inNativeOrder, hnative, horder]

/-- The normal form that a field asks for has the type that the field wraps around its base. -/
theorem type_form (hbare : base.isBare = true) (horder : base.inOrder false = base) :
    (field.form base hbare).type = field.wrap base := by
  have helement : (field.form base hbare).element = field.elementOf base := by
    unfold elementOf
    simp only [field.ordered_eq hbare horder]
    rfl
  rw [wrap_eq, ← helement]
  exact field.type_eq_repeated rfl

end FieldDef

/-- The normal form that a field asks for in a catalog. -/
structure NormalForm.Follows (form : NormalForm) (c : Catalog) (registry : Registry)
    (field : FieldDef) : Prop where
  /-- There is an array for more than one value, and it has that many. -/
  length : ∀ length, form.length = some length ↔ 1 < field.count ∧ length = field.count
  /-- A dependency has neither bounds nor a flag. -/
  dependency : field.type = .dependency → form.bounded = false ∧ form.flagged = false
  /-- Any other type has the bounds and the flag that the field asks for. -/
  modifiers : field.type ≠ .dependency → form.bounded = field.bounds ∧ form.flagged = field.flagged
  /-- The base is what the field declares, in native order if that is named and the field asks for
  it. -/
  base : ∃ declared, Declares c registry field.target field.type declared ∧
    form.base = declared.inOrder field.compound

namespace Catalog

variable {c : Catalog} {registry : Registry} {owner : String} {field : FieldDef} {type : FieldType}

/-- A dependency is at most repeated; any other type is the declared base inside wrappers. -/
theorem exists_declares_of_resolveType (h : c.resolveType registry owner field = .ok type) :
    ∃ declared, Declares c registry field.target field.type declared ∧
      ((field.type = .dependency ∧ type = declared.repeated field.count) ∨
        field.type ≠ .dependency ∧ type = field.wrap declared) := by
  rcases Tables.resolveType_cases h with ⟨htype, hwrap⟩ | ⟨bits, signed, htype, hwrap⟩ |
    ⟨htype, hwrap⟩ | ⟨htype, hwrap⟩ | ⟨target, id, ident, htype, htarget, hid, hident, hwrap⟩ |
    ⟨name, kind, ident, htype, hkind, hident, hwrap⟩
  · rw [htype]
    exact ⟨_, .dependency, Or.inl ⟨rfl, hwrap⟩⟩
  · rw [htype]
    exact ⟨_, .int bits signed, Or.inr ⟨DeclaredType.noConfusion, hwrap⟩⟩
  · rw [htype]
    exact ⟨_, .float, Or.inr ⟨DeclaredType.noConfusion, hwrap⟩⟩
  · rw [htype]
    exact ⟨_, .data, Or.inr ⟨DeclaredType.noConfusion, hwrap⟩⟩
  · rw [htype]
    have hstruct := c.distinctNames.typeNamed?_struct_iff.1 ⟨id, hid⟩
    have hspelled := Text.requireIdentifier_eq_ok_iff.1 hident
    exact ⟨_, .reflexive htarget hstruct hspelled, Or.inr ⟨DeclaredType.noConfusion, hwrap⟩⟩
  · rw [htype]
    have hspelled := Text.requireIdentifier_eq_ok_iff.1 hident
    exact ⟨_, .named_of_namedKind? hkind hspelled, Or.inr ⟨DeclaredType.noConfusion, hwrap⟩⟩

/-- A field that resolves has a normal form, and its type is in it. -/
theorem exists_form_of_resolveType (h : c.resolveType registry owner field = .ok type) :
    ∃ form : NormalForm, form.type = type ∧ form.Follows c registry field := by
  rcases exists_declares_of_resolveType h with ⟨declared, hdeclares, ⟨htype, rfl⟩ | ⟨htype, rfl⟩⟩
  · -- a dependency is its own declared base, and the count is all that it takes from the field
    rw [htype] at hdeclares
    cases hdeclares
    refine ⟨⟨field.arrayLength?, false, false, .dependency, rfl⟩, field.type_eq_repeated rfl, ?_⟩
    refine ⟨field.arrayLength?_eq_some_iff, fun _ => ⟨rfl, rfl⟩, fun hne => absurd htype hne, ?_⟩
    rw [htype]
    exact ⟨_, .dependency, rfl⟩
  · refine ⟨field.form declared hdeclares.isBare, field.type_form _ hdeclares.inOrder_false, ?_⟩
    exact ⟨field.arrayLength?_eq_some_iff, fun hdependency => absurd hdependency htype,
      fun _ => ⟨rfl, rfl⟩, declared, hdeclares, rfl⟩

/-- The byte order is all that a base takes from the modifiers of a field. -/
theorem base_eq_of_declares (h : c.resolveType registry owner field = .ok type)
    {declared : FieldType} (hdeclares : Declares c registry field.target field.type declared) :
    type.base = declared.inOrder field.compound := by
  rcases exists_form_of_resolveType h with ⟨form, rfl, hfollows⟩
  rcases hfollows.base with ⟨other, hother, hbase⟩
  rw [form.base_type, hbase, hother.unique hdeclares]

/-- Resolved types are in normal form. A type is a base without wrappers inside a flag, bounds and
an array, in this order from the inside and each of them there exactly if the field asks for it; a
dependency takes the array only. The base is the one that the declaration stands for, whatever else
the field and its owner say, but for the byte order of a named one. So there is no array inside an
element, and a name that is defined is never taken from the registry. -/
theorem resolved_types_are_normal (c : Catalog) (registry : Registry) {owner : String}
    {field : FieldDef} {type : FieldType} (h : c.resolveType registry owner field = .ok type) :
    ∃ form : NormalForm, form.type = type ∧
      (∀ other : NormalForm, other.type = type → other = form) ∧
      form.Follows c registry field ∧ type.base = form.base ∧ type.element.arrayFree = true ∧
      (∀ (owner' : String) (other : FieldDef) (type' : FieldType),
        c.resolveType registry owner' other = .ok type' → other.type = field.type →
          (field.type = .reflexive → other.target = field.target) →
            type'.base.inOrder field.compound = type.base) ∧
      ∀ d ∈ c.definitions, field.type = .named d.name →
        ∃ ident, type.base = .named ident d.kind field.compound := by
  rcases exists_form_of_resolveType h with ⟨form, rfl, hfollows⟩
  rcases hfollows.base with ⟨declared, hdeclares, hbase⟩
  refine ⟨form, rfl, fun other hother => NormalForm.type_injective hother, hfollows, form.base_type,
    ?_, ?_, ?_⟩
  · rw [form.element_type]
    exact form.arrayFree_element
  · intro owner' other type' hresolved htype htarget
    have hother : Declares c registry other.target other.type declared := by
      rw [htype]
      exact hdeclares.of_target htarget
    rw [base_eq_of_declares hresolved hother, FieldType.inOrder_inOrder,
      base_eq_of_declares h hdeclares]
  · intro d hd htype
    rw [form.base_type, hbase]
    rw [htype] at hdeclares
    cases hdeclares with
    | defined hd' hname hident =>
        rw [c.distinctNames.definition_injective hd hd' hname.symm]
        exact ⟨_, rfl⟩
    | engine hfree => exact absurd rfl (hfree d hd)

/-- A catalog that defines angles itself, as named directions. -/
def compass : Catalog where
  enums := [{ name := "Angle", options := ["north", "east"] }]
  faultless := by decide

/-- Three ranges of angles, each behind a flag and in native order. -/
def sectors : FieldDef :=
  { memberName := "sectors", type := .named "Angle", flagged := true, compound := true,
    bounds := true, count := 3 }

/-- The sectors are in normal form, and their angles are those of the catalog though the engine has
angles as well. -/
theorem sectors_are_normal :
    Registry.engine.get? "Angle" = some .real ∧
    ∃ (type : FieldType) (form : NormalForm),
      compass.resolveType Registry.engine "Turret" sectors = .ok type ∧ form.type = type ∧
      form.Follows compass Registry.engine sectors ∧ form.length = some 3 ∧ form.bounded = true ∧
      form.flagged = true ∧
      ∃ ident, form.base = .named ident (.enumeration ⟨"Angle", ["north", "east"]⟩) true := by
  have hresolved : (compass.resolveType Registry.engine "Turret" sectors).isOk = true := by
    decide +kernel
  rcases Stepwise.exists_ok_of_isOk hresolved with ⟨type, htype⟩
  rcases compass.resolved_types_are_normal Registry.engine htype with
    ⟨form, hform, _, hfollows, hbase, _, _, hdefined⟩
  have hne : sectors.type ≠ .dependency := DeclaredType.noConfusion
  refine ⟨by decide +kernel, type, form, htype, hform, hfollows,
    (hfollows.length 3).2 ⟨by decide, rfl⟩, (hfollows.modifiers hne).1, (hfollows.modifiers hne).2,
    ?_⟩
  rw [← hbase]
  exact hdefined (.enumeration ⟨"Angle", ["north", "east"]⟩)
    (by simp [Tables.definitions, compass]) rfl

end Catalog
end TagSchema
