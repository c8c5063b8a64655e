/-!
# Faults of definitions

Everything that can be wrong with definitions, by cause, and the message that tells the author.
-/

namespace TagSchema

/-- The kinds of definitions. -/
inductive DefinitionKind where
  | enumeration
  | bitfield
  | struct
deriving DecidableEq, Repr

/-- The word for a kind of definition. -/
def DefinitionKind.word : DefinitionKind → String
  | enumeration => "enum"
  | bitfield => "bitfield"
  | struct => "struct"

/-- A fault in the definitions, with the names that locate it. -/
inductive SchemaError where
  | duplicate (kind : DefinitionKind) (name : String)
  | unknownParent (struct parent : String)
  | inheritanceCycle (chain : List String)
  | unknownStruct (name : String)
  | unknownType (struct field type : String)
  | missingTarget (struct field : String)
  | unknownOption (struct field enumeration option : String)
  | unknownBit (context bitfield bit : String)
  | tooWide (bitfield : String) (count width : Nat)
  | invalidIdentifier (name : String)
  | unknownIndexTarget (struct field target : String)
  | invalidDefault (struct field value type : String)
  | unknownTitle (struct title : String)
  | allExcluded (struct field enumeration : String)
deriving DecidableEq, Repr

/-- The message of a fault. -/
def SchemaError.message : SchemaError → String
  | duplicate kind name => "duplicate " ++ kind.word ++ " definition `" ++ name ++ "`"
  | unknownParent struct parent => s!"struct `{struct}` inherits unknown struct `{parent}`"
  | inheritanceCycle chain => "inheritance cycle: " ++ String.intercalate " -> " chain
  | unknownStruct name => s!"unknown struct `{name}`"
  | unknownType struct field type => s!"field `{struct}.{field}` references unknown type `{type}`"
  | missingTarget struct field => s!"reflexive `{struct}.{field}` does not name a target struct"
  | unknownOption struct field enumeration option =>
    s!"option `{option}` not found in enum `{enumeration}` (excluded by `{struct}.{field}`)"
  | unknownBit context bitfield bit =>
    s!"field `{bit}` not found in bitfield `{bitfield}` (referenced by `{context}`)"
  | tooWide bitfield count width =>
    s!"bitfield `{bitfield}` declares {count} bits but is {width} bits wide"
  | invalidIdentifier name => s!"`{name}` is not a valid identifier"
  | unknownIndexTarget struct field target =>
    s!"index `{struct}.{field}` points into `{target}`, which is not a reflexive of the struct"
  | invalidDefault struct field value type =>
    s!"default `{value}` of `{struct}.{field}` does not fit `{type}`"
  | unknownTitle struct title => s!"struct `{struct}` is titled by unknown member `{title}`"
  | allExcluded struct field enumeration =>
    s!"every option of enum `{enumeration}` is excluded for `{struct}.{field}`"

end TagSchema
