import TagSchema.Text.Pieces

/-!
# File trees

A directory and everything below it as a value. Paths are texts with slashes between names; they are
resolved name by name, and every name before the last has to be a directory.
-/

namespace TagSchema
namespace Storage

/-- Why a file operation fails. -/
inductive FileError where
  | notFound
  | alreadyExists
  | notADirectory
  | isADirectory
  | notText
deriving DecidableEq, Repr

/-- The message of a failed file operation. -/
def FileError.message : FileError → String
  | notFound => "No such file or directory (os error 2)"
  | alreadyExists => "File exists (os error 17)"
  | notADirectory => "Not a directory (os error 20)"
  | isADirectory => "Is a directory (os error 21)"
  | notText => "stream did not contain valid UTF-8"

/-- The content of a file. -/
abbrev Bytes := List UInt8

/-- The bytes of a text. -/
def encode (text : String) : Bytes :=
  text.toUTF8.data.toList

/-- The text that some bytes encode. -/
def decode? (bytes : Bytes) : Option String :=
  String.fromUTF8? ⟨bytes.toArray⟩

/-- A file or a directory with its entries, in no particular order. -/
inductive Node where
  | file (content : Bytes)
  | directory (entries : List (String × Node))

/-- A place in a tree: the names from the root down. -/
abbrev Location := List String

namespace Node

/-- A directory without entries. -/
def empty : Node :=
  .directory []

/-- The node at a place. -/
def find? : Node → Location → Option Node
  | node, [] => some node
  | file _, _ :: _ => none
  | directory entries, name :: rest =>
    match entries.lookup name with
    | some node => node.find? rest
    | none => none

/-- Entries with a node under a name, in place of the one that was there. -/
def putEntry (name : String) (node : Node) : List (String × Node) → List (String × Node)
  | [] => [(name, node)]
  | (other, held) :: rest =>
    if other = name then (name, node) :: rest else (other, held) :: putEntry name node rest

/-- Puts a node at a place; directories on the way are made. Below a file nothing is put. -/
def put : Node → Location → Node → Node
  | _, [], node => node
  | file content, _ :: _, _ => file content
  | directory entries, name :: rest, node =>
    directory (putEntry name (put ((entries.lookup name).getD empty) rest node) entries)

/-! ## Paths -/

/-- The names of a path, empty ones included. -/
def pathNames (path : String) : List String :=
  (Text.pieces (· = '/') path.toList).map String.ofList

/-- Follows names from a place, given in reverse. Dots and empty names stay, two dots go up; what is
followed has to be a directory. -/
def follow (root : Node) (reached : Location) : List String → Except FileError Location
  | [] => .ok reached.reverse
  | name :: rest =>
    match root.find? reached.reverse with
    | none => .error .notFound
    | some (file _) => .error .notADirectory
    | some (directory _) =>
      if name = "" || name = "." then follow root reached rest
      else if name = ".." then follow root reached.tail rest
      else follow root (name :: reached) rest

/-- The place that a path leads to. The last name need not exist. -/
def locate (root : Node) (path : String) : Except FileError Location :=
  if path.isEmpty then .error .notFound else root.follow [] (pathNames path)

/-- The place and the node that a path leads to. -/
def resolve (root : Node) (path : String) : Except FileError (Location × Node) := do
  let location ← root.locate path
  match root.find? location with
  | some node => return (location, node)
  | none => throw .notFound

/-- A path leads to a directory. -/
def isDirectory (root : Node) (path : String) : Bool :=
  match root.resolve path with
  | .ok (_, directory _) => true
  | _ => false

/-- A path below a directory. -/
def joinPath (dir name : String) : String :=
  if dir.isEmpty || dir.endsWith "/" then dir ++ name else dir ++ "/" ++ name

/-! ## Reading -/

/-- The text of the file that a path leads to. -/
def readText (root : Node) (path : String) : Except FileError String := do
  match ← root.resolve path with
  | (_, file content) =>
    match decode? content with
    | some text => return text
    | none => throw .notText
  | (_, directory _) => throw .isADirectory

mutual

/-- The files of a tree with their paths, depth first, the entries of each directory in the order of
their names. -/
def files (path : String) : Node → List (String × Bytes)
  | file content => [(path, content)]
  | directory entries =>
    ((entryFiles path entries).mergeSort fun a b => decide (a.1 ≤ b.1)).flatMap (·.2)

/-- The files below each entry of a directory, by the name of the entry. -/
def entryFiles (path : String) : List (String × Node) → List (String × List (String × Bytes))
  | [] => []
  | (name, node) :: rest => (name, node.files (joinPath path name)) :: entryFiles path rest

end

/-- The files below a directory with their sizes, by path. -/
def listing (root : Node) (dir : String) : List (String × Nat) :=
  match root.resolve dir with
  | .ok (_, directory entries) =>
    (((directory entries).files "").map fun (path, content) => (path, content.length)).mergeSort
      fun a b => decide (a.1 ≤ b.1)
  | _ => []

/-! ## Writing -/

/-- The names of a path without the empty ones at its end. -/
def givenNames (path : String) : List String :=
  ((pathNames path).reverse.dropWhile (· = "")).reverse

/-- The names of a path, after the first one without empty names and dots. -/
def plainNames (path : String) : List String :=
  match pathNames path with
  | [] => []
  | first :: rest => first :: rest.filter fun name => name ≠ "" && name ≠ "."

/-- Names, given in reverse, followed by the names of every directory above. -/
def upwards : List String → List (List String)
  | [] => []
  | name :: above => (name :: above).reverse :: upwards above

/-- The directories that a path needs, from the one that it names upwards. -/
def neededDirectories (path : String) : List (List String) :=
  match (plainNames path).reverse with
  | [] => []
  | _ :: above => givenNames path :: upwards above

/-- Makes one directory. The names before the last have to lead to a directory, and nothing may stand
at the last one. -/
def addDirectory (root : Node) (names : List String) : Except FileError Node := do
  let location ← root.follow [] names
  match root.find? location with
  | some _ => throw .alreadyExists
  | none => return root.put location empty

/-- Names lead to a directory. -/
def leadsToDirectory (root : Node) (names : List String) : Bool :=
  match (root.follow [] names).toOption.bind root.find? with
  | some (directory _) => true
  | _ => false

/-- Makes one directory, unless it is there already. -/
def ensureDirectory (root : Node) (names : List String) : Node × Except FileError Unit :=
  match root.addDirectory names with
  | .ok root => (root, .ok ())
  | .error e =>
    (root, if e = .alreadyExists && root.leadsToDirectory names then .ok () else .error e)

/-- Makes the first of some directories. When its way is missing, the directories after it are made
first; those that are made before a failure stay. -/
def ensureDirectories (root : Node) : List (List String) → Node × Except FileError Unit
  | [] => (root, .ok ())
  | names :: above =>
    match root.ensureDirectory names with
    | (_, .error .notFound) =>
      match root.ensureDirectories above with
      | (root, .ok ()) => root.ensureDirectory names
      | failed => failed
    | outcome => outcome

/-- Makes the directory that a path names and the directories above it; gives the tree and the place
of the directory. -/
def makeDirectory (root : Node) (path : String) : Node × Except FileError Location :=
  match root.ensureDirectories (neededDirectories path) with
  | (root, .ok ()) => (root, root.follow [] (pathNames path))
  | (root, .error e) => (root, .error e)

/-- Makes an empty file at a place, in place of a file that was there. -/
def makeFile (root : Node) (location : Location) : Except FileError Node :=
  match root.find? location with
  | some (directory _) => .error .isADirectory
  | _ => .ok (root.put location (file []))

/-- Bytes with some of them overwritten from an offset on; a gap before new bytes is filled with
zeros. -/
def overwrite (content : Bytes) (offset : Nat) (new : Bytes) : Bytes :=
  if new.isEmpty then
    content
  else
    content.take offset ++ List.replicate (offset - content.length) 0 ++ new ++
      content.drop (offset + new.length)

/-- Writes bytes into the file at a place, from an offset on. -/
def writeAt (root : Node) (location : Location) (offset : Nat) (new : Bytes) : Node :=
  match root.find? location with
  | some (file content) => root.put location (file (overwrite content offset new))
  | _ => root

end Node
end Storage
end TagSchema
