import TagSchema.Artifact
import TagSchema.Emission.Authoring
import TagSchema.Emission.Cache
import TagSchema.Emission.Comparison
import TagSchema.Emission.Revision
import TagSchema.Emission.Validation
import TagSchema.Emission.Value

/-!
# Passes

A pass emits one concern of a struct, and may add to the declarations. There is one standard pass
for each concern.
-/

namespace TagSchema
namespace Emission

/-- What a pass emits for a struct. -/
structure Emitted where
  declarations : String := ""
  code : String
deriving DecidableEq, Repr

/-- A pass over structs. -/
structure Pass where
  artifact : Artifact
  emit : Subject → Except SchemaError Emitted

namespace Pass

/-- What the standard pass of a concern emits. -/
def standardEmit (s : Subject) : Artifact → Except SchemaError Emitted
  | .cacheDeformat => return { code := Cache.deformat s }
  | .cacheFormat => return { code := Cache.compile s }
  | .saveHekData => return { code := Authoring.write s }
  | .readCacheFileData => return { code := Cache.read s }
  | .readHekData => return { code := Authoring.read s }
  | .readHekFile => return { code := Authoring.readFile s }
  | .refactorReference => return { code := Revision.redirect s }
  | .structValue =>
    match Value.titleFault? s with
    | some fault => .error fault
    | none => return { declarations := Value.declaration s, code := Value.view s }
  | .checkBrokenEnums => return { code := ← Validation.domains s }
  | .checkInvalidReferences => return { code := Validation.references s }
  | .checkInvalidRanges => return { code := Validation.ranges s }
  | .checkInvalidIndices => return { code := ← Validation.indices s }
  | .normalize => return { code := Revision.scaling s }
  | .compare => return { code := Comparison.compare s }

/-- The standard pass of a concern. -/
def standard (artifact : Artifact) : Pass :=
  ⟨artifact, fun s => standardEmit s artifact⟩

/-- The standard passes, in the order of the concerns. -/
def standardPasses : List Pass :=
  Artifact.all.map standard

end Pass
end Emission
end TagSchema
