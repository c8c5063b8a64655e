import TagSchema.Definition.Basic

/-!
# Exclusions

What a field of a struct may not hold: options of an enum, by position, or bits of a bitfield. A
table holds the exclusions of fields, keyed by struct and by the position of the field among the
flattened ones. An empty exclusion has no entry.
-/

namespace TagSchema

/-- What a field may not hold; positions of options increase. -/
inductive Exclusion where
  | options (positions : List Nat)
  | mask (bits : Mask)
deriving DecidableEq, Repr

namespace Exclusion

/-- The exclusion excludes nothing. -/
def isEmpty : Exclusion → Bool
  | options positions => positions.isEmpty
  | mask bits => bits = 0

/-- The excluded options, if the exclusion is about options. -/
def options? : Exclusion → Option (List Nat)
  | options positions => some positions
  | mask _ => none

/-- The excluded bits, if the exclusion is about bits. -/
def mask? : Exclusion → Option Mask
  | options _ => none
  | mask bits => some bits

end Exclusion

/-- Inserts a position into increasing positions, once. -/
def insertPosition (position : Nat) : List Nat → List Nat
  | [] => [position]
  | first :: rest =>
    if position < first then position :: first :: rest
    else if position = first then first :: rest
    else first :: insertPosition position rest

/-- The given positions in increasing order, each once. -/
def sortPositions (positions : List Nat) : List Nat :=
  positions.foldr insertPosition []

/-- The key of an entry: a struct and the position of a field. -/
structure ExclusionKey where
  struct : Nat
  field : Nat
deriving DecidableEq, Repr

/-- Keys are ordered by struct, then by field. -/
def ExclusionKey.before (a b : ExclusionKey) : Bool :=
  a.struct < b.struct || (a.struct = b.struct && a.field < b.field)

/-- Exclusions by key, in the order of the keys. -/
structure ExclusionTable where
  entries : List (ExclusionKey × Exclusion) := []
deriving DecidableEq, Repr

namespace ExclusionTable

/-- The exclusion of a key. -/
def get? (table : ExclusionTable) (key : ExclusionKey) : Option Exclusion :=
  table.entries.lookup key

/-- Entries without the one of a key. -/
def eraseEntry (key : ExclusionKey) (entries : List (ExclusionKey × Exclusion)) :
    List (ExclusionKey × Exclusion) :=
  entries.filter (·.1 ≠ key)

/-- Entries with one at its place; an entry of the same key is replaced. -/
def putEntry (key : ExclusionKey) (exclusion : Exclusion) :
    List (ExclusionKey × Exclusion) → List (ExclusionKey × Exclusion)
  | [] => [(key, exclusion)]
  | (other, held) :: rest =>
    if key.before other then (key, exclusion) :: (other, held) :: rest
    else if key = other then (key, exclusion) :: rest
    else (other, held) :: putEntry key exclusion rest

/-- Records an exclusion; an empty one removes the entry. -/
def insert (table : ExclusionTable) (key : ExclusionKey) (exclusion : Exclusion) :
    ExclusionTable :=
  if exclusion.isEmpty then ⟨eraseEntry key table.entries⟩
  else ⟨putEntry key exclusion table.entries⟩

/-- Takes over every entry of another table. -/
def extend (table other : ExclusionTable) : ExclusionTable :=
  ⟨other.entries.foldl (fun entries entry => putEntry entry.1 entry.2 entries) table.entries⟩

/-- The excluded options of a field, none when nothing is excluded. -/
def excludedOptions (table : ExclusionTable) (key : ExclusionKey) : List Nat :=
  ((table.get? key).bind Exclusion.options?).getD []

/-- The excluded bits of a field, none when nothing is excluded. -/
def excludedMask (table : ExclusionTable) (key : ExclusionKey) : Mask :=
  ((table.get? key).bind Exclusion.mask?).getD 0

/-- The last position that a field can have: positions are words of 64 bits. -/
def lastField : Nat := Nat.pow 2 64 - 1

/-- The entries from one key to another, both included. -/
def between (first last : ExclusionKey) (entries : List (ExclusionKey × Exclusion)) :
    List (ExclusionKey × Exclusion) :=
  (entries.dropWhile fun entry => entry.1.before first).takeWhile fun entry => !last.before entry.1

/-- The entries of a struct, by field position. -/
def forStruct (table : ExclusionTable) (struct : Nat) : List (Nat × Exclusion) :=
  (between ⟨struct, 0⟩ ⟨struct, lastField⟩ table.entries).map fun entry => (entry.1.field, entry.2)

/-- The number of entries. -/
def size (table : ExclusionTable) : Nat :=
  table.entries.length

/-- The table has no entries. -/
def isEmpty (table : ExclusionTable) : Bool :=
  table.entries.isEmpty

end ExclusionTable
end TagSchema
