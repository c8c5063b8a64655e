import Mathlib.Data.List.Sort
import TagSchema.Loading
import TagSchema.Proofs.FileTree

/-!
# Walking directories

The entries of a directory are listed in no particular order. A walk visits them in the order of
their names, so it visits the files of a tree in the order of their places, which are compared name
by name. There is only one list of that kind, so what is loaded does not depend on how entries are
listed.

Main results:

- `Storage.Node.exists_walk`: the files of a tree, as a walk comes to them.
- `Storage.Node.eq_of_sorted`: files in the order of their places are determined by what they are.
- `Loading.isDefinitionFile_iff`: the files whose definitions are loaded, by their last names.
- `Loading.exists_definitionFiles`, `Loading.definitionFiles_congr`: the definition files below a
  path.
- `Loading.loads_fromDirectory`: what the definition files come to.
- `Loading.listing_order_is_irrelevant`: what loading a directory comes to.
-/

namespace TagSchema

/-! ## Names on a path -/

namespace Storage

/-- A name that an entry of a directory can have. -/
structure IsName (name : String) : Prop where
  notEmpty : name ≠ ""
  notDot : name ≠ "."
  noSlash : '/' ∉ name.toList

namespace Node

/-- A name is not cut further. -/
theorem pieces_of_isName {name : String} (h : IsName name) :
    Text.pieces (· = '/') name.toList = [name.toList] := by
  apply Text.pieces_of_forall
  intro c hc
  have hne : c ≠ '/' := fun heq => h.noSlash (heq ▸ hc)
  simp [hne]

/-- Behind a slash, a name is the last one of a path. -/
theorem pathNames_of_slash {path name : String} {before : List Char} (hname : IsName name)
    (hpath : path.toList = before ++ '/' :: name.toList) :
    ∃ above, pathNames path = above ++ [name] := by
  refine ⟨(Text.pieces (· = '/') before).map String.ofList, ?_⟩
  rw [pathNames, hpath, Text.pieces_append_cons (by simp), pieces_of_isName hname]
  simp

/-- A path below a directory ends with the name of the entry. -/
theorem pathNames_joinPath {name : String} (hname : IsName name) (dir : String) :
    ∃ above, pathNames (joinPath dir name) = above ++ [name] := by
  unfold joinPath
  by_cases hempty : dir = ""
  · refine ⟨[], ?_⟩
    subst hempty
    simp [pathNames, pieces_of_isName hname]
  by_cases hslash : dir.endsWith "/" = true
  · have hsuffix : ['/'] <:+ dir.toList := by
      rw [← String.endsWith_toSlice, String.Slice.endsWith_string_iff] at hslash
      simpa using hslash
    obtain ⟨before, hbefore⟩ := hsuffix
    have hpath : (dir ++ name).toList = before ++ '/' :: name.toList := by simp [← hbefore]
    rw [if_pos (by simp [hslash])]
    exact pathNames_of_slash hname hpath
  · have hpath : (dir ++ "/" ++ name).toList = dir.toList ++ '/' :: name.toList := by simp
    rw [if_neg (by simp [hempty, hslash])]
    exact pathNames_of_slash hname hpath

/-! ## Trees -/

/-- A tree as a file system has it: the entries of each directory have different names. -/
inductive WellFormed : Node → Prop
  | file (content : Bytes) : WellFormed (file content)
  | directory {entries : List (String × Node)} (distinct : (entries.map Prod.fst).Nodup)
      (names : ∀ entry ∈ entries, IsName entry.1) (nodes : ∀ entry ∈ entries, WellFormed entry.2) :
      WellFormed (directory entries)

variable {root node : Node} {entries : List (String × Node)} {name : String} {place : Location}
  {content : Bytes}

/-- With distinct names, looking up a name finds its only entry. -/
theorem lookup_eq_some_iff_mem (hdistinct : (entries.map Prod.fst).Nodup) :
    entries.lookup name = some node ↔ (name, node) ∈ entries := by
  induction entries with
  | nil => simp
  | cons entry rest ih =>
      obtain ⟨first, held⟩ := entry
      rw [List.map_cons, List.nodup_cons] at hdistinct
      rw [List.lookup_cons, List.mem_cons, Prod.mk.injEq]
      by_cases heq : name = first
      · subst heq
        have hrest : (name, node) ∉ rest := fun hmem =>
          hdistinct.1 (List.mem_map.2 ⟨(name, node), hmem, rfl⟩)
        simp [hrest, eq_comm]
      · simp [beq_false_of_ne heq, heq, ih hdistinct.2]

/-- How the entries of a directory are listed does not change its shapes. -/
theorem shapeAt?_of_perm {others : List (String × Node)} (hdistinct : (entries.map Prod.fst).Nodup)
    (hperm : others.Perm entries) (place : Location) :
    (directory others).shapeAt? place = (directory entries).shapeAt? place := by
  cases place with
  | nil => rfl
  | cons name place =>
      have hothers : (others.map Prod.fst).Nodup := (hperm.map Prod.fst).nodup_iff.2 hdistinct
      have hlookup : others.lookup name = entries.lookup name := by
        apply Option.ext
        intro node
        rw [lookup_eq_some_iff_mem hdistinct, lookup_eq_some_iff_mem hothers, hperm.mem_iff]
      rw [shapeAt?_directory_cons, shapeAt?_directory_cons, hlookup]

/-- A directory stays well-formed however its entries are listed. -/
theorem WellFormed.of_perm {others : List (String × Node)} (h : (Node.directory entries).WellFormed)
    (hperm : others.Perm entries) : (Node.directory others).WellFormed := by
  cases h with
  | directory hdistinct hnames hnodes =>
      refine .directory ((hperm.map Prod.fst).nodup_iff.2 hdistinct) ?_ ?_
      · intro entry hentry
        exact hnames entry (hperm.mem_iff.1 hentry)
      · intro entry hentry
        exact hnodes entry (hperm.mem_iff.1 hentry)

/-- What stands at a place of a tree is a tree, and the place is made of names. -/
theorem WellFormed.of_find? (h : root.WellFormed) (hfind : root.find? place = some node) :
    node.WellFormed ∧ ∀ name ∈ place, IsName name := by
  induction place generalizing root with
  | nil =>
      have hroot : root = node := by cases root <;> exact Option.some.inj hfind
      exact ⟨hroot ▸ h, by simp⟩
  | cons name place ih =>
      cases h with
      | file content => cases hfind
      | @directory entries hdistinct hnames hnodes =>
          rw [find?] at hfind
          split at hfind
          · rename_i held hheld
            have hentry := (lookup_eq_some_iff_mem hdistinct).1 hheld
            obtain ⟨hnode, hplace⟩ := ih (hnodes _ hentry) hfind
            exact ⟨hnode, List.forall_mem_cons.2 ⟨hnames _ hentry, hplace⟩⟩
          · cases hfind

/-! ## Walks -/

/-- The files of a tree in the order of their places, which are compared name by name. -/
structure Walk (root : Node) (visited : List (Location × Bytes)) : Prop where
  sorted : visited.Pairwise fun file other => file.1 < other.1
  mem_iff : ∀ place content,
    (place, content) ∈ visited ↔ root.shapeAt? place = some (.file content)

/-- Files in the order of their places are determined by what they are. -/
theorem eq_of_sorted {visited others : List (Location × Bytes)}
    (hvisited : visited.Pairwise fun file other => file.1 < other.1)
    (hothers : others.Pairwise fun file other => file.1 < other.1)
    (hmem : ∀ place content, (place, content) ∈ visited ↔ (place, content) ∈ others) :
    visited = others := by
  have hirrefl : Std.Irrefl fun file other : Location × Bytes => file.1 < other.1 :=
    ⟨fun file => List.lt_irrefl file.1⟩
  have hantisymm : Std.Antisymm fun file other : Location × Bytes => file.1 < other.1 :=
    ⟨fun file other hlt hgt => absurd hgt (List.lt_asymm hlt)⟩
  exact hvisited.eq_of_mem_iff hothers fun file => hmem file.1 file.2

/-- Entries are compared by their names. -/
def byName {α : Type} (entry other : String × α) : Bool :=
  decide (entry.1 ≤ other.1)

/-- A file of an entry, as seen from the directory. -/
def inside (name : String) (file : Location × Bytes) : Location × Bytes :=
  (name :: file.1, file.2)

/-- The path of a file below a path. -/
def pathTo (path : String) (file : Location × Bytes) : String :=
  file.1.foldl joinPath path

/-- The files of a directory, entry by entry. -/
theorem entryFiles_eq_map (path : String) (entries : List (String × Node)) :
    entryFiles path entries =
      entries.map fun entry => (entry.1, entry.2.files (joinPath path entry.1)) := by
  induction entries with
  | nil => rfl
  | cons entry rest ih => rw [entryFiles, ih, List.map_cons]

/-- The files of a directory are those of its entries in the order of their names. -/
theorem files_directory (path : String) (entries : List (String × Node)) :
    (directory entries).files path =
      (entries.mergeSort byName).flatMap fun entry => entry.2.files (joinPath path entry.1) := by
  have hsorted := List.map_mergeSort (r := byName) (s := byName) (l := entries)
    (f := fun entry => (entry.1, entry.2.files (joinPath path entry.1))) fun _ _ _ _ => rfl
  unfold byName at hsorted ⊢
  rw [files, entryFiles_eq_map, ← hsorted, List.flatMap_map]

/-- Entries with distinct names are sorted strictly. -/
theorem pairwise_sortedByName (hdistinct : (entries.map Prod.fst).Nodup) :
    (entries.mergeSort byName).Pairwise fun entry other => entry.1 < other.1 := by
  have htrans : ∀ a b c : String × Node,
      byName a b = true → byName b c = true → byName a c = true := by
    intro a b c hab hbc
    exact decide_eq_true (String.le_trans (of_decide_eq_true hab) (of_decide_eq_true hbc))
  have htotal : ∀ a b : String × Node, (byName a b || byName b a) = true := by
    intro a b
    simpa [byName] using String.le_total a.1 b.1
  have hsorted := List.pairwise_mergeSort htrans htotal entries
  have hnodup : ((entries.mergeSort byName).map Prod.fst).Nodup :=
    ((List.mergeSort_perm entries byName).map Prod.fst).nodup_iff.2 hdistinct
  refine (hsorted.and (List.pairwise_map.1 hnodup)).imp ?_
  rintro entry other ⟨hle, hne⟩
  exact Std.lt_of_le_of_ne (of_decide_eq_true hle) hne

/-- The walk of a directory is made of the walks of its entries. -/
theorem walk_directory {visited : String × Node → List (Location × Bytes)}
    (hdistinct : (entries.map Prod.fst).Nodup)
    (hvisited : ∀ entry ∈ entries, entry.2.Walk (visited entry)) :
    (directory entries).Walk
      ((entries.mergeSort byName).flatMap fun entry => (visited entry).map (inside entry.1)) where
  sorted := by
    rw [List.pairwise_flatMap]
    constructor
    · intro entry hentry
      rw [List.pairwise_map]
      refine (hvisited entry (List.mem_mergeSort.1 hentry)).sorted.imp ?_
      intro file other hlt
      exact List.cons_lt_cons_iff.2 (Or.inr ⟨rfl, hlt⟩)
    · refine (pairwise_sortedByName hdistinct).imp ?_
      intro entry other hlt file hfile next hnext
      obtain ⟨inner, _, rfl⟩ := List.mem_map.1 hfile
      obtain ⟨inner', _, rfl⟩ := List.mem_map.1 hnext
      exact List.cons_lt_cons_iff.2 (Or.inl hlt)
  mem_iff := by
    intro place content
    simp only [List.mem_flatMap, List.mem_mergeSort, List.mem_map]
    cases place with
    | nil => simp [inside, shape]
    | cons name place =>
        rw [shapeAt?_directory_cons, Option.bind_eq_some_iff]
        constructor
        · rintro ⟨⟨first, node⟩, hentry, file, hfile, heq⟩
          cases heq
          exact ⟨node, (lookup_eq_some_iff_mem hdistinct).2 hentry,
            ((hvisited _ hentry).mem_iff file.1 file.2).1 hfile⟩
        · rintro ⟨node, hnode, hshape⟩
          have hentry := (lookup_eq_some_iff_mem hdistinct).1 hnode
          exact ⟨(name, node), hentry, (place, content),
            ((hvisited _ hentry).mem_iff place content).2 hshape, rfl⟩

/-- Every tree has a walk, and its files come in that order. -/
theorem exists_walk (h : root.WellFormed) :
    ∃ visited, root.Walk visited ∧
      ∀ path, root.files path = visited.map fun file => (pathTo path file, file.2) := by
  induction h with
  | file content =>
      refine ⟨[([], content)], ⟨List.pairwise_singleton _ _, ?_⟩, fun path => rfl⟩
      intro place other
      cases place with
      | nil => simp [shape, eq_comm]
      | cons name place => simp
  | @directory entries hdistinct hnames hnodes ih =>
      choose! visited hvisited using ih
      refine ⟨_, walk_directory hdistinct fun entry hentry => (hvisited entry hentry).1, ?_⟩
      intro path
      rw [files_directory, List.map_flatMap]
      apply List.flatMap_congr
      intro entry hentry
      rw [(hvisited entry (List.mem_mergeSort.1 hentry)).2, List.map_map]
      rfl

end Node
end Storage

namespace Loading

open Storage

variable {root listed node : Node} {path name : String} {location : Location}
  {visited others : List (Location × Bytes)}

/-! ## Definition files -/

/-- A name with an extension: something stands before its last dot, and the extension behind it. -/
theorem hasExtension_iff {extension : String} (hdot : '.' ∉ extension.toList) :
    hasExtension extension name = true ↔
      ∃ stem, stem ≠ "" ∧ name = stem ++ "." ++ extension := by
  simp only [hasExtension, Bool.and_eq_true, Bool.not_eq_true', List.isEmpty_eq_false_iff,
    decide_eq_true_eq, ne_eq, decide_not]
  constructor
  · rintro ⟨hbefore, hlast⟩
    have hsplit := List.takeWhile_append_dropWhile (p := fun c => !decide (c = '.'))
      (l := name.toList.reverse)
    cases hrest : name.toList.reverse.dropWhile fun c => !decide (c = '.') with
    | nil => simp [hrest] at hbefore
    | cons first before =>
        have hfirst : first = '.' := by
          have h := List.head_dropWhile_not (fun c => !decide (c = '.')) (l := name.toList.reverse)
            (by simp [hrest])
          simpa [hrest] using h
        rw [hrest, hfirst] at hsplit
        rw [hrest, List.tail_cons] at hbefore
        refine ⟨String.ofList before.reverse, by simpa using hbefore, ?_⟩
        rw [← String.toList_inj, ← List.reverse_reverse name.toList, ← hsplit]
        simp [hlast]
  · rintro ⟨stem, hstem, rfl⟩
    have hnodot : ∀ c ∈ extension.toList.reverse, (!decide (c = '.')) = true := by
      intro c hc
      have hne : c ≠ '.' := fun heq => hdot (heq ▸ List.mem_reverse.1 hc)
      simp [hne]
    have hreverse : (stem ++ "." ++ extension).toList.reverse =
        extension.toList.reverse ++ '.' :: stem.toList.reverse := by simp
    rw [hreverse, List.dropWhile_append_of_pos hnodot, List.takeWhile_append_of_pos hnodot]
    simp [hstem]

/-- The last name of a path that is extended by a name is that name. -/
theorem lastName_joinPath (hname : IsName name) (dir : String) :
    lastName (Node.joinPath dir name) = name := by
  obtain ⟨above, habove⟩ := Node.pathNames_joinPath hname dir
  simp [lastName, habove, List.filter_append, hname.notEmpty, hname.notDot]

/-- The last name of a path to a file is that of its place, or that of the path where a walk
starts. -/
theorem lastName_pathTo {place : Location} (hnames : ∀ name ∈ place, IsName name) (path : String)
    (content : Bytes) :
    lastName (Node.pathTo path (place, content)) = place.getLastD (lastName path) := by
  unfold Node.pathTo
  induction place generalizing path with
  | nil => rfl
  | cons first place ih =>
      obtain ⟨hfirst, hplace⟩ := List.forall_mem_cons.1 hnames
      rw [List.foldl_cons, ih hplace, lastName_joinPath hfirst, List.getLastD_cons]

/-- A name with the extension of definition files. -/
def NamesDefinitions (name : String) : Prop :=
  ∃ stem, stem ≠ "" ∧ name = stem ++ ".json"

/-- Whether a file holds definitions depends on the last name on its path only. -/
theorem isDefinitionFile_iff {place : Location} (hnames : ∀ name ∈ place, IsName name)
    (path : String) (content : Bytes) :
    isDefinitionFile (Node.pathTo path (place, content)) = true ↔
      NamesDefinitions (place.getLastD (lastName path)) := by
  rw [isDefinitionFile, lastName_pathTo hnames, hasExtension_iff (by decide)]
  simp only [NamesDefinitions, String.append_assoc]
  rfl

/-- The definition files below the place that a path leads to, in the order of their places. -/
structure Visits (root : Node) (path : String) (location : Location)
    (visited : List (Location × Bytes)) : Prop where
  sorted : visited.Pairwise fun file other => file.1 < other.1
  mem_iff : ∀ place content, (place, content) ∈ visited ↔
    root.shapeAt? (location ++ place) = some (.file content) ∧
      NamesDefinitions (place.getLastD (lastName path))

/-- A walk finds the definition files below a path, in the order of their places. -/
theorem exists_definitionFiles (hroot : root.WellFormed)
    (h : root.resolve path = .ok (location, node)) :
    ∃ visited, Visits root path location visited ∧ definitionFiles root path =
      .ok (visited.map fun file => (Node.pathTo path file, file.2)) := by
  have hfind := Node.resolve_eq_ok h
  have hnode := (hroot.of_find? hfind).1
  obtain ⟨walked, hwalk, hfiles⟩ := Node.exists_walk hnode
  refine ⟨walked.filter fun file => isDefinitionFile (Node.pathTo path file),
    ⟨hwalk.sorted.filter _, ?_⟩, ?_⟩
  · intro place content
    rw [List.mem_filter, hwalk.mem_iff, Node.shapeAt?_append hfind]
    apply and_congr_right
    intro hshape
    have hplace := (hnode.of_find? (Node.shapeAt?_eq_file_iff.1 hshape)).2
    exact isDefinitionFile_iff hplace path content
  · simp only [definitionFiles, h, hfiles, List.filter_map, Function.comp_def]

/-- The definition files below a path do not depend on how entries are listed. -/
theorem definitionFiles_congr (hroot : root.WellFormed) (hlisted : listed.WellFormed)
    (hsame : ∀ place, listed.shapeAt? place = root.shapeAt? place) (path : String) :
    definitionFiles listed path = definitionFiles root path := by
  rcases Stepwise.of_map_eq_map (Node.resolve_congr hsame path) with
    ⟨e, he, he'⟩ | ⟨⟨location, held⟩, ⟨_, node⟩, hheld, hnode, rfl⟩
  · simp only [definitionFiles, he, he']
  · obtain ⟨visited, hvisited, hfiles⟩ := exists_definitionFiles hroot hnode
    obtain ⟨others, hothers, hfiles'⟩ := exists_definitionFiles hlisted hheld
    have heq : others = visited := by
      apply Node.eq_of_sorted hothers.sorted hvisited.sorted
      intro place content
      rw [hothers.mem_iff, hvisited.mem_iff, hsame]
    rw [hfiles, hfiles', heq]

/-! ## Loading -/

/-- What a file comes to: its definitions, or the failure that stops loading. -/
inductive Reading (path : String) (content : Bytes) : Except Failure (List Definition) → Prop
  | undecodable (hcontent : decode? content = none) : Reading path content (.error (.file .notText))
  | unparsable {source : String} {fault : Document.Fault} (hcontent : decode? content = some source)
      (hsource : Definition.parse source = .error fault) :
      Reading path content (.error (.parse path fault))
  | parsed {source : String} {definitions : List Definition}
      (hcontent : decode? content = some source)
      (hsource : Definition.parse source = .ok definitions) : Reading path content (.ok definitions)

/-- Reading a file succeeds with its definitions, or fails in the way its content decides. -/
theorem reading_readWalked (path : String) (content : Bytes) :
    Reading path content (readWalked (path, content)) := by
  cases hcontent : decode? content with
  | none =>
      simp only [readWalked, hcontent]
      exact .undecodable hcontent
  | some source =>
      cases hsource : Definition.parse source with
      | error fault =>
          simp only [readWalked, hcontent, parseFrom, hsource]
          exact .unparsable hcontent hsource
      | ok definitions =>
          simp only [readWalked, hcontent, parseFrom, hsource]
          exact .parsed hcontent hsource

/-- What loading some files below a path comes to: the catalog of all definitions, or the failure of
the first file that has one. -/
inductive Loads (path : String) (visited : List (Location × Bytes)) : Except Failure Catalog → Prop
  | accepted (documents : List (List Definition))
      (hread : List.Forall₂ (fun file definitions =>
        Reading (Node.pathTo path file) file.2 (.ok definitions)) visited documents) :
      Loads path visited ((Catalog.ofDefinitions documents.flatten).mapError .schema)
  | stopped (before : List (Location × Bytes)) (file : Location × Bytes)
      (after : List (Location × Bytes)) (failure : Failure)
      (hvisited : visited = before ++ file :: after)
      (hbefore : ∀ other ∈ before,
        ∃ definitions, Reading (Node.pathTo path other) other.2 (.ok definitions))
      (hfile : Reading (Node.pathTo path file) file.2 (.error failure)) :
      Loads path visited (.error failure)

theorem outcome_ofTables (t : Tables) :
    (ofTables t).outcome = (Catalog.ofTables t).mapError .schema := by
  unfold ofTables
  cases Catalog.ofTables t <;> rfl

/-- Loading a directory puts the definitions of the visited files together. -/
theorem loads_fromDirectory (hfiles : definitionFiles root path =
      .ok (visited.map fun file => (Node.pathTo path file, file.2))) :
    Loads path visited (fromDirectory root path).outcome := by
  let step (file : Location × Bytes) := readWalked (Node.pathTo path file, file.2)
  have hreading (file : Location × Bytes) : Reading (Node.pathTo path file) file.2 (step file) :=
    reading_readWalked _ _
  have hread : readDirectory root path = visited.mapM step := by
    rw [readDirectory, hfiles]
    exact List.mapM_map
  rcases Stepwise.all_ok_or_first_error step visited with
    hall | ⟨before, file, after, failure, hvisited, hbefore, hfile⟩
  · obtain ⟨documents, hdocuments⟩ := Stepwise.exists_mapM_iff.2 hall
    have houtcome : (fromDirectory root path).outcome =
        (Catalog.ofDefinitions documents.flatten).mapError .schema := by
      simp only [fromDirectory, hread, hdocuments, outcome_ofTables, Catalog.ofDefinitions]
    rw [houtcome]
    refine .accepted documents ((Stepwise.mapM_eq_ok_iff.1 hdocuments).imp ?_)
    intro file definitions hfile
    rw [← hfile]
    exact hreading file
  · have hstopped : visited.mapM step = .error failure := by
      rw [hvisited]
      exact Stepwise.mapM_of_first_error hbefore hfile
    have houtcome : (fromDirectory root path).outcome = .error failure := by
      simp only [fromDirectory, hread, hstopped]
    rw [houtcome]
    refine .stopped before file after failure hvisited ?_ ?_
    · intro other hother
      obtain ⟨definitions, hdefinitions⟩ := hbefore other hother
      exact ⟨definitions, hdefinitions ▸ hreading other⟩
    · exact hfile ▸ hreading file

/-- What loading a directory comes to does not depend on how the entries of directories are listed.
A path that leads nowhere fails. Otherwise the definition files below it are visited in the order of
their places, compared name by name; their definitions together become one catalog, unless a file
cannot be decoded or parsed: the first such file decides, whatever comes after it. -/
theorem listing_order_is_irrelevant (hroot : root.WellFormed) (hlisted : listed.WellFormed)
    (hsame : ∀ place, listed.shapeAt? place = root.shapeAt? place) (path : String) :
    fromDirectory listed path = fromDirectory root path ∧
    (∀ e, root.resolve path = .error e →
      (fromDirectory root path).outcome = .error (.walk path e)) ∧
    ∀ location node, root.resolve path = .ok (location, node) →
      ∃ visited, Visits root path location visited ∧
        Loads path visited (fromDirectory root path).outcome := by
  refine ⟨?_, ?_, ?_⟩
  · simp only [fromDirectory, readDirectory, definitionFiles_congr hroot hlisted hsame]
  · intro e he
    simp only [fromDirectory, readDirectory, definitionFiles, he]
    rfl
  · intro location node hnode
    obtain ⟨visited, hvisited, hfiles⟩ := exists_definitionFiles hroot hnode
    exact ⟨visited, hvisited, loads_fromDirectory hfiles⟩

/-- A directory beside a file. The definition file in the directory comes first, although its path
as a text is the greater one. -/
def shelf : List (String × Node) :=
  [("a.json", .file (encode "[]")), ("a", .directory [("z.json", .file [255])]),
    ("notes.txt", .file [])]

/-- The shelf loads the same with its entries listed in reverse. -/
theorem shelf_listing_order_is_irrelevant :
    (Node.directory shelf).WellFormed ∧ (Node.directory shelf.reverse).WellFormed ∧
    (∀ place, (Node.directory shelf.reverse).shapeAt? place =
      (Node.directory shelf).shapeAt? place) ∧
    (Node.directory shelf).resolve "." = .ok ([], .directory shelf) ∧
    fromDirectory (.directory shelf.reverse) "." = fromDirectory (.directory shelf) "." ∧
    ∃ visited, Visits (.directory shelf) "." [] visited ∧
      Loads "." visited (fromDirectory (.directory shelf) ".").outcome := by
  have hname : ∀ name ∈ ["a.json", "a", "notes.txt", "z.json"], IsName name := by
    simp only [List.forall_mem_cons, List.not_mem_nil, false_imp_iff, implies_true, and_true]
    refine ⟨?_, ?_, ?_, ?_⟩ <;> exact ⟨by decide, by decide, by decide⟩
  have hdistinct : (shelf.map Prod.fst).Nodup := by decide
  have hinner : (Node.directory [("z.json", .file [255])]).WellFormed := by
    refine .directory (by decide) ?_ ?_
    · simpa using hname "z.json" (by decide)
    · simpa using Node.WellFormed.file [255]
  have hshelf : (Node.directory shelf).WellFormed := by
    refine .directory hdistinct ?_ ?_
    · simp only [shelf, List.forall_mem_cons]
      exact ⟨hname _ (by decide), hname _ (by decide), hname _ (by decide), by simp⟩
    · simp only [shelf, List.forall_mem_cons]
      exact ⟨.file _, hinner, .file _, by simp⟩
  have hperm : shelf.reverse.Perm shelf := List.reverse_perm shelf
  have hsame := Node.shapeAt?_of_perm hdistinct hperm
  have hresolve : (Node.directory shelf).resolve "." = .ok ([], .directory shelf) := rfl
  have hall := listing_order_is_irrelevant hshelf (hshelf.of_perm hperm) hsame "."
  exact ⟨hshelf, hshelf.of_perm hperm, hsame, hresolve, hall.1, hall.2.2 [] _ hresolve⟩

end Loading
end TagSchema
