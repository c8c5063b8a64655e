import TagSchema.Document.Value

/-!
# Records of a document

A record is written as an object with keys or as a list that gives its fields in declaration order.
Unknown keys mean nothing, a known key may stand only once, and fields at the end of a list may be
missing.
-/

namespace TagSchema
namespace Document

/-- The keys that name one field of a record. -/
abbrev FieldKeys := List String

/-- Some field is named more than once by the members of an object. -/
def repeatsField (fields : List FieldKeys) (members : List (String × Value)) : Bool :=
  fields.any fun keys => 1 < (members.filter (keys.contains ·.1)).length

/-- What a record gives for each of its fields. -/
def Value.record? (fields : List FieldKeys) : Value → Option (List (Option Value))
  | .object members =>
    if repeatsField fields members then none
    else some (fields.map fun keys => (members.find? (keys.contains ·.1)).map (·.2))
  | .list items =>
    if fields.length < items.length then none
    else some (items.map some ++ List.replicate (fields.length - items.length) none)
  | _ => none

variable {α : Type}

/-- A field that has to be there. -/
def required (read : Value → Option α) (given : Option Value) : Option α :=
  given.bind read

/-- A field that may be missing, and then has a fixed value. -/
def orElse (missing : α) (read : Value → Option α) : Option Value → Option α
  | none => some missing
  | some value => read value

/-- A field that may be missing or null. -/
def optional (read : Value → Option α) : Option Value → Option (Option α)
  | none => some none
  | some .null => some none
  | some value => (read value).map some

end Document
end TagSchema
