import TagSchema.CommandLine.Session

/-!
# The program

Takes the files that a command names into a tree, carries the command out on it, and writes back what
changed.
-/

namespace TagSchema
namespace Main

open Storage CommandLine

/-- A file, or a directory with everything below it. -/
partial def readNode (entry : IO.FS.DirEntry) : IO (Option Node) := do
  if ← entry.path.isDir then
    let mut entries := []
    for inner in ← entry.path.readDir do
      if let some node ← readNode inner then
        entries := (inner.fileName, node) :: entries
    return some (.directory entries)
  else if ← entry.path.pathExists then
    return some (.file (← IO.FS.readBinFile entry.path).data.toList)
  else
    return none

/-- What a path leads to, without what is below a directory. -/
def readShallow (entry : IO.FS.DirEntry) : IO (Option Node) := do
  if ← entry.path.isDir then
    return some .empty
  else if ← entry.path.pathExists then
    return some (.file [])
  else
    return none

/-- A tree with what a path leads to, and with the directories on the way. -/
def readTree (path : String) : IO Node := do
  let here ← IO.currentDir
  let names := Node.pathNames path
  let mut tree := Node.empty
  for count in [1 : names.length] do
    let passed := String.intercalate "/" (names.take count)
    match tree.locate passed, ← readShallow ⟨here, passed⟩ with
    | .ok location, some node =>
      if (tree.find? location).isNone then
        tree := tree.put location node
    | _, _ => pure ()
  match tree.locate path, ← readNode ⟨here, path⟩ with
  | .ok location, some node => return tree.put location node
  | _, _ => return tree

/-- Writes the texts of a run that stand in a tree into a directory, and makes the directories that
it needs. -/
def writeTexts (tree : Node) (dir : String) : IO Unit := do
  for names in (Node.neededDirectories dir).reverse do
    let path := String.intercalate "/" names
    if !path.isEmpty && tree.leadsToDirectory names then
      IO.FS.createDirAll path
  if tree.isDirectory dir then
    for target in Target.all do
      let path := Node.joinPath dir target.fileName
      if let .ok (_, .file content) := tree.resolve path then
        IO.FS.writeBinFile path ⟨content.toArray⟩

/-- Carries out a command on the files that it names. -/
def perform (command : Command) : IO Outcome := do
  let sources ← readTree command.definitions
  match command.output? with
  | none => return commandOutcome sources .empty command
  | some dir =>
    let outcome := commandOutcome sources (← readTree dir) command
    writeTexts outcome.files dir
    return outcome

end Main
end TagSchema

open TagSchema CommandLine in
/-- Runs the program with its arguments. -/
def main (arguments : List String) : IO UInt32 := do
  let outcome ← match read arguments with
    | .ok command => Main.perform command
    | .error stop => pure (stop.outcome .empty)
  IO.print outcome.output
  IO.eprint outcome.errors
  return UInt32.ofNat outcome.exitCode
