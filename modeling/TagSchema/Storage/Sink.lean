import TagSchema.Artifact
import TagSchema.Storage.Tree

/-!
# Sinks

The texts of runs are appended to sinks, one for each text. A sink holds its text in memory or
passes it on to a file. What is appended to a file waits until the sink is flushed or until more
waits than a sink has room for.
-/

namespace TagSchema
namespace Storage

/-! ## Open files -/

/-- An open file: its place, where the next bytes go, and the text that waits. -/
structure OpenFile where
  location : Location
  offset : Nat := 0
  waiting : String := ""
deriving DecidableEq, Repr

namespace OpenFile

/-- The number of bytes that may wait. -/
def capacity : Nat := 8192

/-- Passes a text on to the file and leaves another one waiting. -/
def pass (f : OpenFile) (root : Node) (passed waiting : String) : OpenFile × Node :=
  let bytes := encode passed
  ({ f with offset := f.offset + bytes.length, waiting := waiting },
    root.writeAt f.location f.offset bytes)

/-- Passes on what waits. -/
def flush (f : OpenFile) (root : Node) : OpenFile × Node :=
  f.pass root f.waiting ""

/-- Appends a text. A text that would take all the room goes to the file at once, behind what waits;
a text that does not fit behind what waits takes its place. -/
def append (f : OpenFile) (root : Node) (text : String) : OpenFile × Node :=
  if capacity ≤ text.utf8ByteSize then
    f.pass root (f.waiting ++ text) ""
  else if f.waiting.utf8ByteSize + text.utf8ByteSize ≤ capacity then
    f.pass root "" (f.waiting ++ text)
  else
    f.pass root f.waiting text

end OpenFile

/-! ## Single sinks -/

/-- Where a text is appended to. -/
inductive Sink where
  | memory (text : String)
  | file (openFile : OpenFile)
deriving DecidableEq, Repr

namespace Sink

/-- Appends a text. -/
def append (root : Node) (text : String) : Sink → Sink × Node
  | memory held => (memory (held ++ text), root)
  | file f =>
    let (f, root) := f.append root text
    (file f, root)

/-- What a sink in memory holds. -/
def contents? : Sink → Option String
  | memory held => some held
  | file _ => none

/-- Passes on what waits. -/
def flush (root : Node) : Sink → Sink × Node
  | memory held => (memory held, root)
  | file f =>
    let (f, root) := f.flush root
    (file f, root)

end Sink

/-! ## Sinks of a run -/

/-- One sink for each text of a run. -/
structure Artifacts where
  sink : Target → Sink

namespace Artifacts

/-- Empty sinks in memory. -/
def inMemory : Artifacts :=
  ⟨fun _ => .memory ""⟩

/-- The artifacts with another sink for a text. -/
def set (a : Artifacts) (target : Target) (sink : Sink) : Artifacts :=
  ⟨fun other => if other = target then sink else a.sink other⟩

/-- Appends to a text. -/
def append (a : Artifacts) (root : Node) (target : Target) (text : String) : Artifacts × Node :=
  let (sink, root) := (a.sink target).append root text
  (a.set target sink, root)

/-- Appends to some texts what is given for them. -/
def appendEach (a : Artifacts) (root : Node) (text : Target → String) :
    List Target → Artifacts × Node
  | [] => (a, root)
  | target :: rest =>
    let (a, root) := a.append root target (text target)
    a.appendEach root text rest

/-- Appends to every text what is given for it. -/
def appendAll (a : Artifacts) (root : Node) (text : Target → String) : Artifacts × Node :=
  a.appendEach root text Target.all

/-- The text that is held in memory. -/
def text? (a : Artifacts) (target : Target) : Option String :=
  (a.sink target).contents?

/-- Appends every text that is held in memory to the matching text of other artifacts. -/
def writeInto (a other : Artifacts) (root : Node) : Artifacts × Node :=
  other.appendAll root fun target => (a.text? target).getD ""

/-- Flushes the sinks of some texts. -/
def flush (a : Artifacts) (root : Node) : List Target → Artifacts × Node
  | [] => (a, root)
  | target :: rest =>
    let (sink, root) := (a.sink target).flush root
    (a.set target sink).flush root rest

/-- Flushes the declarations. -/
def flushDeclarations (a : Artifacts) (root : Node) : Artifacts × Node :=
  a.flush root [.declarations]

/-- Flushes all concerns. -/
def flushConcerns (a : Artifacts) (root : Node) : Artifacts × Node :=
  a.flush root (Artifact.all.map .concern)

/-- Makes the files of some texts in a directory; the files made before a failure stay. -/
def makeFiles (root : Node) (dir : Location) : List Target → Node × Except FileError Unit
  | [] => (root, .ok ())
  | target :: rest =>
    match root.makeFile (dir ++ [target.fileName]) with
    | .ok root => makeFiles root dir rest
    | .error e => (root, .error e)

/-- Makes a directory with an empty file for every text, and the sinks that write to them. -/
def createIn (root : Node) (dir : String) : Node × Except FileError Artifacts :=
  match root.makeDirectory dir with
  | (root, .error e) => (root, .error e)
  | (root, .ok location) =>
    match makeFiles root location Target.all with
    | (root, .ok ()) =>
      (root, .ok ⟨fun target => .file { location := location ++ [target.fileName] }⟩)
    | (root, .error e) => (root, .error e)

end Artifacts
end Storage
end TagSchema
