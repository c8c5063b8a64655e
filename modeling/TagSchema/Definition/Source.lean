import TagSchema.Definition.Basic
import TagSchema.Document.Reader
import TagSchema.Document.Record

/-!
# Definitions in a document

A definition document is a list of entries, each marked with its type. The mark is looked at as soon
as it is read; the shape of an entry is looked at when the entry ends, before the next entry is read.
-/

namespace TagSchema
namespace Definition

open Document

/-! ## Shapes of entries -/

/-- An enum entry. -/
def enum? (value : Value) : Option EnumDef := do
  match ← value.record? [["name"], ["options"]] with
  | [name, options] =>
    return { name := ← required Value.text? name
             options := ← required (Value.listOf? Value.text?) options }
  | _ => none

/-- A bitfield entry. -/
def bitfield? (value : Value) : Option BitfieldDef := do
  match ← value.record? [["name"], ["fields"], ["width"], ["cache_only"]] with
  | [name, fields, width, cacheOnly] =>
    return { name := ← required Value.text? name
             fields := ← required (Value.listOf? Value.text?) fields
             width := ← orElse 32 (Value.naturalBelow? (Nat.pow 2 8)) width
             cacheOnly := ← orElse [] (Value.listOf? Value.text?) cacheOnly }
  | _ => none

/-- A group of a struct entry. -/
def group? (value : Value) : Option Group := do
  match ← value.record? [["name"], ["first"], ["description"]] with
  | [name, first, description] =>
    return { name := ← required Value.text? name
             first := ← required Value.text? first
             description := ← optional Value.text? description }
  | _ => none

/-- An entry of an exclusion list. -/
def exclude? (value : Value) : Option ExcludeEntry := do
  match ← value.record? [["option", "field"], ["struct"]] with
  | [option, scope] =>
    return { option := ← required Value.text? option
             scope := ← optional (Value.listOf? Value.text?) scope }
  | _ => none

/-- A default: a number or a list of numbers. -/
def default? : Value → Option DefaultValue
  | .list items => (items.mapM Value.real?).map .vector
  | value => value.real?.map .scalar

/-- The keys of a field, in declaration order. -/
def fieldKeys : List FieldKeys := [
  ["member_name"], ["type"], ["struct"], ["size"], ["flagged"], ["compound"], ["bounds"], ["count"],
  ["exclude"], ["default"], ["minimum"], ["maximum"], ["classes"], ["non_null"], ["reflexive"],
  ["hidden"], ["volatile"], ["normalize"], ["comment"]]

/-- A switch that is off when it is missing. -/
def switch? : Option Value → Option Bool :=
  orElse false Value.bool?

/-- A field of a struct entry. -/
def field? (value : Value) : Option FieldDef := do
  match ← value.record? fieldKeys with
  | [memberName, type, target, size, flagged, compound, bounds, count, exclude, initial, minimum,
      maximum, classes, nonNull, indexOf, hidden, volatile, normalize, comment] =>
    return { memberName := ← orElse "" Value.text? memberName
             type := DeclaredType.ofTag (← required Value.text? type)
             target := ← optional Value.text? target
             size := ← optional (Value.naturalBelow? (Nat.pow 2 64)) size
             flagged := ← switch? flagged
             compound := ← switch? compound
             bounds := ← switch? bounds
             count := ← orElse 1 (Value.naturalBelow? (Nat.pow 2 64)) count
             exclude := ← orElse [] (Value.listOf? exclude?) exclude
             initial := ← optional default? initial
             minimum := ← optional Value.real? minimum
             maximum := ← optional Value.real? maximum
             classes := ← orElse [] (Value.listOf? Value.text?) classes
             nonNull := ← switch? nonNull
             indexOf := ← optional Value.text? indexOf
             hidden := ← switch? hidden
             volatile := ← switch? volatile
             normalize := ← switch? normalize
             comment := ← optional Value.text? comment }
  | _ => none

/-- The keys of a struct, in declaration order. -/
def structKeys : List FieldKeys := [
  ["name"], ["inherits"], ["fields"], ["groups"], ["post_cache_deformat"], ["post_cache_parse"],
  ["pre_compile"], ["post_compile"], ["postprocess_hek_data"], ["normalize"], ["read_only"], ["title"]]

/-- A struct entry. -/
def struct? (value : Value) : Option StructDef := do
  match ← value.record? structKeys with
  | [name, inherits, fields, groups, postCacheDeformat, postCacheParse, preCompile, postCompile,
      postprocessHekData, normalize, readOnly, title] =>
    let asked : List (Option Hook) := [
      if ← switch? postCacheDeformat then some .postCacheDeformat else none,
      if ← switch? postCacheParse then some .postCacheParse else none,
      if ← switch? preCompile then some .preCompile else none,
      if ← switch? postCompile then some .postCompile else none,
      if ← switch? postprocessHekData then some .postprocessHekData else none]
    return { name := ← required Value.text? name
             inherits := ← optional Value.text? inherits
             fields := ← orElse [] (Value.listOf? field?) fields
             groups := ← orElse [] (Value.listOf? group?) groups
             capabilities := {
               hooks := asked.filterMap id
               normalize := ← switch? normalize
               readOnly := ← switch? readOnly }
             title := ← optional Value.text? title }
  | _ => none

/-! ## Marked entries -/

/-- The type that an entry is marked with. -/
inductive Mark where
  | enumeration
  | bitfield
  | struct

/-- The mark that a text spells. -/
def Mark.ofText? (s : String) : Option Mark :=
  if s = "enum" then some .enumeration
  else if s = "bitfield" then some .bitfield
  else if s = "struct" then some .struct
  else none

/-- The definition of a marked entry. -/
def ofValue? (mark : Mark) (value : Value) : Option Definition :=
  match mark with
  | .enumeration => (enum? value).map .enumeration
  | .bitfield => (bitfield? value).map .bitfield
  | .struct => (struct? value).map .struct

/-- Reads a mark. A list or an object in its place is refused at once, another value after it is
read. -/
def readMark (text : List Char) : Except Fault (Mark × List Char) := do
  match skipSpaces text with
  | [] => throw .endOfText
  | '[' :: _ => throw .shape
  | '\x7b' :: _ => throw .shape
  | text =>
    let (value, rest) ← readScalar text
    match value.text?.bind Mark.ofText? with
    | some mark => return (mark, rest)
    | none => throw .shape

/-- Nesting that is left inside an entry. -/
def entryDepth : Nat := nestingLimit - 2

/-- What is known of an entry while it is read: its mark and its parts, in reverse. -/
structure Pending (α : Type) where
  mark : Option Mark := none
  parts : List α := []

/-- Reads a member of an entry that is written as an object. A second mark is refused before its
value is read. -/
def readMember (pending : Pending (String × Value)) (key : String) (text : List Char) :
    Except Fault (Pending (String × Value) × List Char) := do
  if key = "type" then
    if pending.mark.isSome then throw .shape
    let (mark, rest) ← readMark (← skipColon text)
    return ({ pending with mark := some mark }, rest)
  else
    let (value, rest) ← readValue entryDepth (← skipColon text)
    return ({ pending with parts := (key, value) :: pending.parts }, rest)

/-- Reads an item of an entry that is written as a list; the first item is the mark. -/
def readItem (pending : Pending Value) (text : List Char) :
    Except Fault (Pending Value × List Char) := do
  if pending.mark.isNone then
    let (mark, rest) ← readMark text
    return ({ pending with mark := some mark }, rest)
  else
    let (value, rest) ← readValue entryDepth text
    return ({ pending with parts := value :: pending.parts }, rest)

/-- The definition of an entry that has been read, or a fault of its shape. -/
def settle (mark : Option Mark) (value : Value) : Except Fault Definition :=
  match mark.bind (ofValue? · value) with
  | some definition => .ok definition
  | none => .error .shape

/-- Reads one entry. -/
def readEntry (text : List Char) : Except Fault (Definition × List Char) := do
  match skipSpaces text with
  | [] => throw .endOfText
  | '[' :: rest =>
    let (pending, rest) ← foldItems readItem {} rest
    return (← settle pending.mark (.list pending.parts.reverse), rest)
  | '\x7b' :: rest =>
    let (pending, rest) ← foldMembers readMember {} rest
    return (← settle pending.mark (.object pending.parts.reverse), rest)
  | text =>
    let _ ← readScalar text
    throw .shape

/-- Reads the entries of a document. -/
def readEntries (text : List Char) : Except Fault (List Definition × List Char) := do
  match skipSpaces text with
  | [] => throw .endOfText
  | '\x7b' :: _ => throw .shape
  | '[' :: rest =>
    let (entries, rest) ← foldItems (fun entries text => do
      let (entry, rest) ← readEntry text
      return (entry :: entries, rest)) [] rest
    return (entries.reverse, rest)
  | text =>
    let _ ← readScalar text
    throw .shape

/-- The definitions of a document, in the order in which they are written. -/
def parse (source : String) : Except Fault (List Definition) := do
  let (definitions, rest) ← readEntries source.toList
  if (skipSpaces rest).isEmpty then return definitions else throw .grammar

end Definition
end TagSchema
