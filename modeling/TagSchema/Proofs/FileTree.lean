import Mathlib.Data.List.Induction
import TagSchema.Proofs.Stepwise
import TagSchema.Storage.Tree

/-!
# File trees

What a tree tells about a place is its shape: a file with its content, a directory, or nothing.
Every operation on trees is described by the shapes that it changes.

Main results:

- `Node.shapeAt?_put`: a file or an empty directory put into a directory changes one place.
- `Node.shapeAt?_writeAt`: writing changes at most the file at one place.
- `Node.resolve_congr`: where a path leads depends on shapes only.
- `Node.Extends`: a tree with more directories, as making directories leaves it.
- `Node.makeDirectory_eq_ok`: a directory that was made is there, and every file is as before.
-/

namespace TagSchema
namespace Storage

/-- What stands at a place: a file with its content or a directory. -/
inductive Shape where
  | file (content : Bytes)
  | directory
deriving DecidableEq, Repr

/-- A shape after bytes were written there, from an offset on: only a file changes. -/
def Shape.overwrite (offset : Nat) (new : Bytes) : Shape → Shape
  | file content => .file (Node.overwrite content offset new)
  | directory => .directory

namespace Node

/-- The shape of a node. -/
def shape : Node → Shape
  | file content => .file content
  | directory _ => .directory

/-- The shape of what stands at a place. -/
def shapeAt? (root : Node) (place : Location) : Option Shape :=
  (root.find? place).map shape

variable {root after node : Node} {place dir other : Location} {name : String} {content : Bytes}

/-- The shape at a place is a file exactly when that file stands there. -/
theorem shapeAt?_eq_file_iff :
    root.shapeAt? place = some (.file content) ↔ root.find? place = some (file content) := by
  unfold shapeAt?
  cases root.find? place with
  | none => simp
  | some node => cases node <;> simp [shape]

/-- The shape at a place is a directory exactly when some directory stands there. -/
theorem shapeAt?_eq_directory_iff :
    root.shapeAt? place = some .directory ↔
      ∃ entries, root.find? place = some (directory entries) := by
  unfold shapeAt?
  cases root.find? place with
  | none => simp
  | some node => cases node <;> simp [shape]

/-! ## Steps down -/

@[simp] theorem shapeAt?_nil : root.shapeAt? [] = some root.shape := by
  cases root <;> rfl

@[simp] theorem shapeAt?_file_cons : (file content).shapeAt? (name :: place) = none := rfl

/-- Below a directory the first name of a place leads to an entry. -/
theorem shapeAt?_directory_cons {entries : List (String × Node)} :
    (directory entries).shapeAt? (name :: place) =
      (entries.lookup name).bind fun node => node.shapeAt? place := by
  simp only [shapeAt?, find?]
  cases entries.lookup name <;> rfl

/-- What stands above something is a directory. -/
theorem shapeAt?_of_below {below : Shape}
    (hbelow : root.shapeAt? (dir ++ name :: place) = some below) :
    root.shapeAt? dir = some .directory := by
  induction dir generalizing root with
  | nil =>
      cases root with
      | file content => cases hbelow
      | directory entries => rfl
  | cons first dir ih =>
      cases root with
      | file content => cases hbelow
      | directory entries =>
          rw [List.cons_append, shapeAt?_directory_cons] at hbelow
          obtain ⟨node, hnode, hbelow⟩ := Option.bind_eq_some_iff.1 hbelow
          rw [shapeAt?_directory_cons, hnode, Option.bind_some]
          exact ih hbelow

/-- What stands below a node that was found. -/
theorem shapeAt?_append (hdir : root.find? dir = some node) :
    root.shapeAt? (dir ++ place) = node.shapeAt? place := by
  induction dir generalizing root with
  | nil =>
      have hroot : root = node := by cases root <;> exact Option.some.inj hdir
      rw [hroot, List.nil_append]
  | cons first dir ih =>
      cases root with
      | file content => cases hdir
      | directory entries =>
          rw [List.cons_append, shapeAt?_directory_cons]
          rw [find?] at hdir
          split at hdir
          · rename_i held hheld
            rw [hheld, Option.bind_some]
            exact ih hdir
          · cases hdir

/-! ## Putting -/

/-- An entry changes what is found under its own name only. -/
theorem lookup_putEntry (other : String) (entries : List (String × Node)) :
    (putEntry name node entries).lookup other =
      if other = name then some node else entries.lookup other := by
  induction entries with
  | nil => by_cases heq : other = name <;> simp [putEntry, List.lookup_cons, beq_false_of_ne, heq]
  | cons entry rest ih =>
      obtain ⟨first, held⟩ := entry
      simp only [putEntry]
      split
      · rename_i heq
        subst heq
        by_cases heq : other = first <;> simp [List.lookup_cons, beq_false_of_ne, heq]
      · rename_i hne
        rw [List.lookup_cons, ih, List.lookup_cons]
        by_cases heq : other = first
        · subst heq
          simp [hne]
        · simp [beq_false_of_ne heq]

/-- A node without anything below it. -/
def IsLeaf (node : Node) : Prop :=
  ∀ name place, node.shapeAt? (name :: place) = none

theorem isLeaf_file (content : Bytes) : (file content).IsLeaf :=
  fun _ _ => rfl

theorem isLeaf_empty : empty.IsLeaf :=
  fun _ _ => rfl

/-- A leaf that is put into a directory, not in place of a directory, changes one place. -/
theorem shapeAt?_put (hleaf : node.IsLeaf) (hdir : root.shapeAt? dir = some .directory)
    (hfree : root.shapeAt? (dir ++ [name]) ≠ some .directory) (other : Location) :
    (root.put (dir ++ [name]) node).shapeAt? other =
      if other = dir ++ [name] then some node.shape else root.shapeAt? other := by
  induction dir generalizing root other with
  | nil =>
      cases root with
      | file content => cases hdir
      | directory entries =>
          simp only [List.nil_append, put]
          cases other with
          | nil => rfl
          | cons first rest =>
              rw [shapeAt?_directory_cons, lookup_putEntry, shapeAt?_directory_cons]
              by_cases hname : first = name
              · subst hname
                cases rest with
                | nil => simp
                | cons second rest =>
                    rw [if_pos rfl, Option.bind_some, hleaf, if_neg (by simp)]
                    -- what was there is no directory, so nothing was below it either
                    rw [List.nil_append, shapeAt?_directory_cons] at hfree
                    cases hentry : entries.lookup first with
                    | none => rfl
                    | some held =>
                        cases held with
                        | file content => rfl
                        | directory held => simp [hentry, shape] at hfree
              · simp [hname]
  | cons first dir ih =>
      cases root with
      | file content => cases hdir
      | directory entries =>
          rw [shapeAt?_directory_cons] at hdir
          obtain ⟨held, hheld, hbelow⟩ := Option.bind_eq_some_iff.1 hdir
          rw [List.cons_append, shapeAt?_directory_cons, hheld, Option.bind_some] at hfree
          simp only [List.cons_append, put, hheld, Option.getD_some]
          cases other with
          | nil => rfl
          | cons second rest =>
              rw [shapeAt?_directory_cons, lookup_putEntry, shapeAt?_directory_cons]
              by_cases hname : second = first
              · subst hname
                rw [if_pos rfl, Option.bind_some, ih hbelow hfree, hheld, Option.bind_some]
                simp
              · simp [hname]

/-- A file that is put in place of a file changes one place. -/
theorem shapeAt?_put_of_file {old : Bytes} (hfile : root.shapeAt? place = some (.file old))
    (content : Bytes) (other : Location) :
    (root.put place (file content)).shapeAt? other =
      if other = place then some (.file content) else root.shapeAt? other := by
  induction place using List.reverseRecOn with
  | nil =>
      cases root with
      | directory entries => cases hfile
      | file held =>
          simp only [put]
          cases other with
          | nil => rfl
          | cons first rest => rfl
  | append_singleton dir name _ =>
      refine shapeAt?_put (isLeaf_file content) ?_ ?_ other
      · exact shapeAt?_of_below hfile
      · rw [hfile]
        simp

/-! ## Overwriting -/

/-- Bytes that are written behind some others take the place of what follows those. -/
theorem overwrite_append (start rest new : Bytes) :
    overwrite (start ++ rest) start.length new = start ++ new ++ rest.drop new.length := by
  cases new with
  | nil => simp [overwrite]
  | cons byte new => simp [overwrite, List.drop_append]

/-- Bytes that are written at the end are added. -/
theorem overwrite_end (content new : Bytes) :
    overwrite content content.length new = content ++ new := by
  have h := overwrite_append content [] new
  rwa [List.append_nil, List.drop_nil, List.append_nil] at h

/-- Bytes that are written right behind other ones are written together with them. -/
theorem overwrite_overwrite (content : Bytes) (offset : Nat) (first second : Bytes) :
    overwrite (overwrite content offset first) (offset + first.length) second =
      overwrite content offset (first ++ second) := by
  cases first with
  | nil => rfl
  | cons byte first =>
      -- before the first bytes stand exactly as many bytes as the offset says
      have hlength : offset + (byte :: first).length = (content.take offset ++
          List.replicate (offset - content.length) 0 ++ byte :: first).length := by
        simp only [List.length_append, List.length_take, List.length_replicate]
        omega
      have hfirst : overwrite content offset (byte :: first) = content.take offset ++
          List.replicate (offset - content.length) 0 ++ byte :: first ++
            content.drop (offset + (byte :: first).length) := rfl
      rw [hfirst]
      nth_rewrite 2 [hlength]
      rw [overwrite_append]
      simp [overwrite, Nat.add_assoc, Nat.add_comm 1]

/-- Writing changes at most one place. -/
theorem shapeAt?_writeAt (offset : Nat) (new : Bytes) (other : Location) :
    (root.writeAt place offset new).shapeAt? other =
      if other = place then (root.shapeAt? place).map (Shape.overwrite offset new)
      else root.shapeAt? other := by
  cases hshape : root.find? place with
  | none =>
      have hroot : root.writeAt place offset new = root := by simp only [writeAt, hshape]
      rw [hroot]
      split
      · rename_i heq
        simp [heq, shapeAt?, hshape]
      · rfl
  | some node =>
      cases node with
      | directory entries =>
          have hroot : root.writeAt place offset new = root := by simp only [writeAt, hshape]
          rw [hroot]
          split
          · rename_i heq
            simp [heq, shapeAt?, hshape, shape, Shape.overwrite]
          · rfl
      | file content =>
          have hfile : root.shapeAt? place = some (.file content) := shapeAt?_eq_file_iff.2 hshape
          simp only [writeAt, hshape, hfile]
          exact shapeAt?_put_of_file hfile _ other

/-! ## Trees with more directories -/

/-- A file stays as it is and a directory stays a directory. -/
structure KeptAt (root after : Node) (place : Location) : Prop where
  file : ∀ content, after.shapeAt? place = some (.file content) ↔
    root.shapeAt? place = some (.file content)
  directory : root.shapeAt? place = some .directory → after.shapeAt? place = some .directory

theorem KeptAt.of_eq (h : after.shapeAt? place = root.shapeAt? place) :
    KeptAt root after place where
  file _ := by rw [h]
  directory hdir := by rw [h, hdir]

theorem KeptAt.trans {between : Node} (h : KeptAt root between place)
    (h' : KeptAt between after place) : KeptAt root after place where
  file content := (h'.file content).trans (h.file content)
  directory := h'.directory ∘ h.directory

/-- A tree with more directories. -/
def Extends (root after : Node) : Prop :=
  ∀ place, KeptAt root after place

theorem Extends.refl (root : Node) : Extends root root :=
  fun _ => .of_eq rfl

theorem Extends.trans {between : Node} (h : Extends root between) (h' : Extends between after) :
    Extends root after :=
  fun place => (h place).trans (h' place)

/-! ## Following names -/

/-- What stands above a place is a directory. -/
def Reachable (root : Node) (place : Location) : Prop :=
  ∀ dir name, place = dir ++ [name] → root.shapeAt? dir = some .directory

theorem reachable_nil : root.Reachable [] := by
  intro dir name h
  simp at h

/-- An entry of a directory is reachable, whether it is there or not. -/
theorem reachable_append (hdir : root.shapeAt? dir = some .directory) :
    root.Reachable (dir ++ [name]) := by
  intro other last h
  rw [(List.append_inj' h rfl).1] at hdir
  exact hdir

/-- A place where something stands is reachable. -/
theorem reachable_of_shapeAt? {there : Shape} (h : root.shapeAt? place = some there) :
    root.Reachable place := by
  rintro dir name rfl
  exact shapeAt?_of_below h

/-- The place, in reverse, after one name. -/
def afterName (reached : Location) (name : String) : Location :=
  if name = "" || name = "." then reached
  else if name = ".." then reached.tail
  else name :: reached

/-- One name is followed in a directory. -/
theorem follow_cons_eq_ok_iff {reached location : Location} {names : List String} :
    root.follow reached (name :: names) = .ok location ↔
      root.shapeAt? reached.reverse = some .directory ∧
        root.follow (afterName reached name) names = .ok location := by
  simp only [follow, shapeAt?, afterName]
  cases root.find? reached.reverse with
  | none => simp
  | some node =>
      cases node with
      | file content => simp [shape]
      | directory entries =>
          by_cases hstay : (name = "" || name = ".") = true
          · simp [hstay, shape]
          · by_cases hup : name = ".." <;> simp [hstay, hup, shape]

/-- One name that is followed in a directory leads to a reachable place. -/
theorem reachable_afterName {reached : Location}
    (hdir : root.shapeAt? reached.reverse = some .directory) :
    root.Reachable (afterName reached name).reverse := by
  have hthere : root.Reachable reached.reverse := reachable_of_shapeAt? hdir
  unfold afterName
  split
  · exact hthere
  split
  · cases reached with
    | nil => exact hthere
    | cons last above =>
        rw [List.reverse_cons] at hthere
        exact reachable_of_shapeAt? (hthere above.reverse last rfl)
  · rw [List.reverse_cons]
    exact reachable_append hdir

/-- Names are followed through directories only. -/
theorem reachable_of_follow {reached location : Location} {names : List String}
    (hreached : root.Reachable reached.reverse) (h : root.follow reached names = .ok location) :
    root.Reachable location := by
  induction names generalizing reached with
  | nil =>
      cases h
      exact hreached
  | cons name names ih =>
      obtain ⟨hdir, h⟩ := follow_cons_eq_ok_iff.1 h
      exact ih (reachable_afterName hdir) h

/-- Names lead to the same place as long as directories stay directories. -/
theorem follow_of_kept {reached location : Location} {names : List String}
    (hkept : ∀ place,
      root.shapeAt? place = some .directory → after.shapeAt? place = some .directory)
    (h : root.follow reached names = .ok location) :
    after.follow reached names = .ok location := by
  induction names generalizing reached with
  | nil => exact h
  | cons name names ih =>
      obtain ⟨hdir, h⟩ := follow_cons_eq_ok_iff.1 h
      exact follow_cons_eq_ok_iff.2 ⟨hkept _ hdir, ih h⟩

/-- Where names lead, or why they lead nowhere, depends on shapes only. -/
theorem follow_congr (hsame : ∀ place, after.shapeAt? place = root.shapeAt? place)
    (reached : Location) (names : List String) :
    after.follow reached names = root.follow reached names := by
  induction names generalizing reached with
  | nil => rfl
  | cons name names ih =>
      have hreached := hsame reached.reverse
      unfold shapeAt? at hreached
      unfold follow
      cases hroot : root.find? reached.reverse with
      | none =>
          rw [hroot, Option.map_none, Option.map_eq_none_iff] at hreached
          rw [hreached]
      | some node =>
          rw [hroot, Option.map_some, Option.map_eq_some_iff] at hreached
          obtain ⟨held, hheld, hshape⟩ := hreached
          rw [hheld]
          cases node <;> cases held <;> simp_all [shape]

/-- A path leads to the same place, or to none for the same reason, in a tree with the same
shapes. -/
theorem resolve_congr (hsame : ∀ place, after.shapeAt? place = root.shapeAt? place)
    (path : String) : (after.resolve path).map Prod.fst = (root.resolve path).map Prod.fst := by
  have hlocate : after.locate path = root.locate path := by
    simp only [locate, follow_congr hsame]
  unfold resolve
  rw [hlocate]
  cases root.locate path with
  | error e => rfl
  | ok location =>
      have hlocation := hsame location
      unfold shapeAt? at hlocation
      cases hroot : root.find? location with
      | none =>
          rw [hroot, Option.map_none, Option.map_eq_none_iff] at hlocation
          simp [bind, Except.bind, hroot, hlocation]
      | some node =>
          rw [hroot, Option.map_some, Option.map_eq_some_iff] at hlocation
          obtain ⟨held, hheld, _⟩ := hlocation
          simp [bind, Except.bind, hroot, hheld, pure, Except.pure, Except.map]

/-- A path that is resolved gives a place and the node that stands there. -/
theorem resolve_eq_ok {path : String} (h : root.resolve path = .ok (place, node)) :
    root.find? place = some node := by
  obtain ⟨location, _, h⟩ := Stepwise.bind_eq_ok_iff.1 h
  split at h
  · rename_i found hfound
    cases h
    exact hfound
  · cases h

/-- Names that lead to a directory. -/
def LeadsTo (root : Node) (names : List String) (location : Location) : Prop :=
  root.follow [] names = .ok location ∧ root.shapeAt? location = some .directory

/-- Names still lead to a directory when every directory is kept. -/
theorem LeadsTo.of_kept {names : List String}
    (hkept : ∀ place,
      root.shapeAt? place = some .directory → after.shapeAt? place = some .directory)
    (h : root.LeadsTo names place) : after.LeadsTo names place :=
  ⟨follow_of_kept hkept h.1, hkept place h.2⟩

/-- The test for a directory holds exactly when names lead to one. -/
theorem leadsToDirectory_iff {names : List String} :
    root.leadsToDirectory names = true ↔ ∃ location, root.LeadsTo names location := by
  unfold leadsToDirectory LeadsTo
  cases root.follow [] names with
  | error e => simp [Except.toOption]
  | ok location =>
      simp only [Except.toOption, Option.bind_some, Except.ok.injEq]
      constructor
      · intro h
        split at h
        · rename_i entries hentries
          exact ⟨location, rfl, shapeAt?_eq_directory_iff.2 ⟨entries, hentries⟩⟩
        · cases h
      · rintro ⟨_, rfl, hdir⟩
        obtain ⟨entries, hentries⟩ := shapeAt?_eq_directory_iff.1 hdir
        rw [hentries]

/-- Empty names behind the names of a directory lead nowhere else. -/
theorem follow_append_empty {reached location : Location} {names : List String}
    (h : root.follow reached names = .ok location)
    (hdir : root.shapeAt? location = some .directory) (k : Nat) :
    root.follow reached (names ++ List.replicate k "") = .ok location := by
  induction names generalizing reached with
  | nil =>
      cases h
      induction k with
      | zero => rfl
      | succ k ih => exact follow_cons_eq_ok_iff.2 ⟨hdir, ih⟩
  | cons name names ih =>
      obtain ⟨hfirst, h⟩ := follow_cons_eq_ok_iff.1 h
      exact follow_cons_eq_ok_iff.2 ⟨hfirst, ih h⟩

/-! ## Making directories -/

/-- An empty directory that is put where nothing stood changes no file and no other directory. -/
theorem extends_put_empty (hdir : root.shapeAt? dir = some .directory)
    (hfree : root.shapeAt? (dir ++ [name]) = none) :
    Extends root (root.put (dir ++ [name]) empty) ∧
      (root.put (dir ++ [name]) empty).shapeAt? (dir ++ [name]) = some .directory := by
  have hput := @shapeAt?_put root empty dir name isLeaf_empty hdir (by simp [hfree])
  have hnew : (root.put (dir ++ [name]) empty).shapeAt? (dir ++ [name]) = some .directory := by
    rw [hput, if_pos rfl]
    rfl
  refine ⟨fun place => ?_, hnew⟩
  by_cases hplace : place = dir ++ [name]
  · subst hplace
    constructor
    · intro content
      simp [hnew, hfree]
    · intro hdirectory
      exact hnew
  · exact .of_eq (by rw [hput, if_neg hplace])

/-- A directory that was added is there, and nothing else has changed. -/
theorem addDirectory_eq_ok {names : List String} (h : root.addDirectory names = .ok after) :
    Extends root after ∧ ∃ location, after.LeadsTo names location := by
  unfold addDirectory at h
  obtain ⟨location, hlocation, h⟩ := Stepwise.bind_eq_ok_iff.1 h
  split at h
  · cases h
  · rename_i hfree
    cases h
    have hfree : root.shapeAt? location = none := by simp [shapeAt?, hfree]
    -- the root of a tree is always there, so a free place has a last name
    obtain ⟨dir, name, rfl⟩ : ∃ dir name, location = dir ++ [name] := by
      rcases List.eq_nil_or_concat location with rfl | ⟨dir, name, rfl⟩
      · simp at hfree
      · exact ⟨dir, name, List.concat_eq_append⟩
    have hdir := reachable_of_follow reachable_nil hlocation dir name rfl
    obtain ⟨hextends, hnew⟩ := extends_put_empty hdir hfree
    exact ⟨hextends, dir ++ [name],
      follow_of_kept (fun place => (hextends place).directory) hlocation, hnew⟩

/-- Ensuring a directory adds directories only, and when it succeeds the names lead to one. -/
theorem ensureDirectory_spec (root : Node) (names : List String) :
    Extends root (root.ensureDirectory names).1 ∧
      ((root.ensureDirectory names).2 = .ok () →
        ∃ location, (root.ensureDirectory names).1.LeadsTo names location) := by
  unfold ensureDirectory
  split
  · rename_i after h
    obtain ⟨hextends, hleads⟩ := addDirectory_eq_ok h
    exact ⟨hextends, fun _ => hleads⟩
  · refine ⟨.refl root, fun h => ?_⟩
    simp only at h ⊢
    split at h
    · rename_i hthere
      rw [Bool.and_eq_true] at hthere
      exact leadsToDirectory_iff.1 hthere.2
    · cases h

/-- Directories are only added, and when all goes well the first one is there. -/
theorem ensureDirectories_spec (root : Node) (needed : List (List String)) :
    Extends root (root.ensureDirectories needed).1 ∧
      ((root.ensureDirectories needed).2 = .ok () → ∀ names ∈ needed.head?,
        ∃ location, (root.ensureDirectories needed).1.LeadsTo names location) := by
  induction needed with
  | nil => exact ⟨.refl root, by simp⟩
  | cons names above ih =>
      obtain ⟨hextends, _⟩ := ih
      simp only [List.head?_cons, Option.mem_def, Option.some.injEq, forall_eq']
      unfold ensureDirectories
      split
      · split
        · rename_i made hmade
          rw [hmade] at hextends
          obtain ⟨hmore, hleads⟩ := ensureDirectory_spec made names
          exact ⟨hextends.trans hmore, hleads⟩
        · rename_i failed hfailed
          refine ⟨hextends, fun h => ?_⟩
          exact (hfailed _ (Prod.ext rfl h)).elim
      · exact ensureDirectory_spec root names

theorem pathNames_ne_nil (path : String) : pathNames path ≠ [] := by
  rw [pathNames, ne_eq, List.map_eq_nil_iff]
  exact Text.pieces_ne_nil _ _

/-- The first directory that a path needs is the one that it names. -/
theorem head?_neededDirectories (path : String) :
    (neededDirectories path).head? = some (givenNames path) := by
  unfold neededDirectories plainNames
  cases hnames : pathNames path with
  | nil => exact absurd hnames (pathNames_ne_nil path)
  | cons first rest =>
      rw [List.reverse_cons]
      cases (rest.filter fun name => name ≠ "" && name ≠ ".").reverse <;> rfl

/-- A path has its given names and then only empty ones. -/
theorem pathNames_eq_givenNames (path : String) :
    ∃ k, pathNames path = givenNames path ++ List.replicate k "" := by
  have hempty : (pathNames path).reverse.takeWhile (· = "") =
      List.replicate ((pathNames path).reverse.takeWhile (· = "")).length "" := by
    apply List.eq_replicate_of_mem
    intro name hname
    simpa using List.all_eq_true.1 List.all_takeWhile name hname
  refine ⟨((pathNames path).reverse.takeWhile (· = "")).length, ?_⟩
  rw [← List.reverse_inj, List.reverse_append, givenNames, List.reverse_reverse,
    List.reverse_replicate, ← hempty, List.takeWhile_append_dropWhile]

/-- A directory that was made is there, and every file is as before. -/
theorem makeDirectory_eq_ok {path : String} {location : Location}
    (h : root.makeDirectory path = (after, .ok location)) :
    Extends root after ∧ after.LeadsTo (pathNames path) location := by
  obtain ⟨hextends, hleads⟩ := ensureDirectories_spec root (neededDirectories path)
  rw [head?_neededDirectories] at hleads
  obtain ⟨k, hnames⟩ := pathNames_eq_givenNames path
  unfold makeDirectory at h
  split at h
  · rename_i made hmade
    rw [hmade] at hextends hleads
    obtain ⟨place, hfollow, hdir⟩ := hleads rfl _ rfl
    have hfollow := follow_append_empty hfollow hdir k
    rw [← hnames] at hfollow
    rw [hfollow] at h
    cases h
    exact ⟨hextends, hfollow, hdir⟩
  · cases h

/-! ## Making files -/

/-- A file is made in place of a file or of nothing. -/
theorem makeFile_eq_ok (hdir : root.shapeAt? dir = some .directory)
    (h : root.makeFile (dir ++ [name]) = .ok after) :
    root.shapeAt? (dir ++ [name]) ≠ some .directory ∧
      ∀ other, after.shapeAt? other =
        if other = dir ++ [name] then some (.file []) else root.shapeAt? other := by
  unfold makeFile at h
  split at h
  · cases h
  · rename_i hfree
    cases h
    have hfree : root.shapeAt? (dir ++ [name]) ≠ some .directory := by
      intro hthere
      obtain ⟨entries, hentries⟩ := shapeAt?_eq_directory_iff.1 hthere
      exact hfree entries hentries
    exact ⟨hfree, shapeAt?_put (isLeaf_file []) hdir hfree⟩

end Node
end Storage
end TagSchema
