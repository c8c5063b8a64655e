import Mathlib.Data.List.Nodup
import TagSchema.Proofs.FileTree
import TagSchema.Storage.Sink

/-!
# Sinks

A sink holds its text in memory, or in a file of which the last part may still wait. What counts is
what the file holds once nothing waits: appending to a sink adds to that, and flushing keeps it.

Main results:

- `OpenFile.finish_pass`: passing bytes on to a file does not change what it will hold.
- `Artifacts.appended_appendAll`: appending to every text of some artifacts.
- `Artifacts.appended_flush`, `Artifacts.flushed_flush`: flushing the sinks of some texts.
- `Artifacts.createIn_eq_ok`: the files that are made for the texts of a run.
-/

namespace TagSchema
namespace Storage

open Node

@[simp] theorem encode_empty : encode "" = [] := rfl

/-- The bytes of two texts stand one after the other. -/
@[simp] theorem encode_append (first second : String) :
    encode (first ++ second) = encode first ++ encode second := by
  simp [encode]

/-! ## Open files -/

namespace OpenFile

/-- What a file comes to hold when what waits is passed on to it, with some bytes behind. -/
def finish (f : OpenFile) (content behind : Bytes) : Bytes :=
  overwrite content f.offset (encode f.waiting ++ behind)

/-- What a file comes to hold, if there is one. -/
def finishShape? (f : OpenFile) (behind : Bytes) : Shape → Option Bytes
  | .file content => some (f.finish content behind)
  | .directory => none

/-- An open file that stands at the end of its file adds to it. -/
theorem finish_end {f : OpenFile} {content : Bytes} (h : f.offset = content.length)
    (behind : Bytes) : f.finish content behind = content ++ encode f.waiting ++ behind := by
  rw [finish, h, overwrite_end, List.append_assoc]

variable (f : OpenFile) (content behind : Bytes) (root : Node) (passed waiting text : String)

/-- It does not matter which part is passed on and which part waits. -/
theorem finish_pass :
    (f.pass root passed waiting).1.finish (overwrite content f.offset (encode passed)) behind =
      overwrite content f.offset (encode (passed ++ waiting) ++ behind) := by
  rw [encode_append, List.append_assoc, ← overwrite_overwrite]
  rfl

/-- Appending passes on one part of what waits with the text behind it and leaves the other part. -/
theorem append_eq_pass : ∃ passed waiting, f.append root text = f.pass root passed waiting ∧
    passed ++ waiting = f.waiting ++ text := by
  unfold append
  split
  · exact ⟨_, _, rfl, String.append_empty⟩
  split
  · exact ⟨_, _, rfl, String.empty_append⟩
  · exact ⟨_, _, rfl, rfl⟩

end OpenFile

/-! ## Single sinks -/

namespace Sink

/-- The place of the file that a sink writes to. -/
def location? : Sink → Option Location
  | memory _ => none
  | file f => some f.location

/-- What a sink comes to hold with some bytes behind, when nothing waits. -/
def finish? (root : Node) (behind : Bytes) : Sink → Option Bytes
  | memory held => some (encode held ++ behind)
  | file f => (root.shapeAt? f.location).bind (f.finishShape? behind)

/-- A sink holds some bytes, and what is appended comes behind them. -/
def Holds (root : Node) (s : Sink) (held : Bytes) : Prop :=
  ∀ behind, s.finish? root behind = some (held ++ behind)

/-- Nothing waits. -/
def Flushed : Sink → Prop
  | memory _ => True
  | file f => f.waiting = ""

theorem holds_memory (root : Node) (text : String) : (memory text).Holds root (encode text) :=
  fun _ => rfl

/-- A sink that stands at the end of its file holds the file with what waits behind it. -/
theorem holds_file {root : Node} {f : OpenFile} {content : Bytes}
    (hfile : root.find? f.location = some (.file content)) (hend : f.offset = content.length) :
    (file f).Holds root (content ++ encode f.waiting) := by
  intro behind
  rw [finish?, shapeAt?_eq_file_iff.2 hfile, Option.bind_some, OpenFile.finishShape?,
    OpenFile.finish_end hend]

/-- A sink and a tree after a text was appended. -/
structure Step (before : Sink) (root : Node) (text : String) (after : Sink × Node) : Prop where
  location : after.1.location? = before.location?
  memory : ∀ held, before = .memory held → after.1 = .memory (held ++ text)
  finish : ∀ behind, after.1.finish? after.2 behind = before.finish? root (encode text ++ behind)
  elsewhere : ∀ place, before.location? ≠ some place →
    after.2.shapeAt? place = root.shapeAt? place

variable {root : Node} {text : String}

/-- Text that is appended to a sink in memory is there at once. -/
theorem step_memory (held : String) :
    Step (.memory held) root text (.memory (held ++ text), root) where
  location := rfl
  memory := by
    rintro _ ⟨⟩
    rfl
  finish behind := by simp [finish?]
  elsewhere _ _ := rfl

/-- Passing on one part of what waits and leaving the other, with a text behind what waited. -/
theorem step_pass {f : OpenFile} {passed waiting : String}
    (h : passed ++ waiting = f.waiting ++ text) :
    Step (.file f) root text
      (.file (f.pass root passed waiting).1, (f.pass root passed waiting).2) where
  location := rfl
  memory := by
    rintro _ ⟨⟩
  finish behind := by
    have hshape : (f.pass root passed waiting).2.shapeAt? f.location =
        (root.shapeAt? f.location).map (Shape.overwrite f.offset (encode passed)) := by
      rw [OpenFile.pass, shapeAt?_writeAt, if_pos rfl]
    simp only [finish?]
    rw [show (f.pass root passed waiting).1.location = f.location from rfl, hshape, Option.bind_map]
    congr 1
    funext shape
    cases shape with
    | directory => rfl
    | file content =>
        have hpass := f.finish_pass content behind root passed waiting
        rw [h, encode_append, List.append_assoc] at hpass
        exact congrArg some hpass
  elsewhere place hplace := by
    have hne : place ≠ f.location := fun heq => hplace (congrArg some heq.symm)
    rw [OpenFile.pass, shapeAt?_writeAt, if_neg hne]

/-- Appending to a sink. -/
theorem step_append (s : Sink) (root : Node) (text : String) :
    Step s root text (s.append root text) := by
  cases s with
  | memory held => exact step_memory held
  | file f =>
      obtain ⟨passed, waiting, hpass, heq⟩ := f.append_eq_pass root text
      simp only [append, hpass]
      exact step_pass heq

/-- Flushing a sink appends nothing. -/
theorem step_flush (s : Sink) (root : Node) : Step s root "" (s.flush root) := by
  cases s with
  | memory held => simpa [flush] using @step_memory root "" held
  | file f => exact step_pass rfl

/-- After a flush nothing waits to be written. -/
theorem flushed_flush (s : Sink) (root : Node) : (s.flush root).1.Flushed := by
  cases s with
  | memory held => trivial
  | file f => rfl

/-- Where nothing waits, a file holds all of its text. -/
theorem shapeAt?_of_flushed {s : Sink} {place : Location} {content : Bytes} (hflushed : s.Flushed)
    (hplace : s.location? = some place) (hfinish : s.finish? root [] = some content) :
    root.shapeAt? place = some (.file content) := by
  cases s with
  | memory held => cases hplace
  | file f =>
      cases hplace
      obtain ⟨shape, hshape, hcontent⟩ := Option.bind_eq_some_iff.1 hfinish
      cases shape with
      | directory => cases hcontent
      | file held =>
          have hwaiting : f.waiting = "" := hflushed
          have hheld : f.finish held [] = held := by simp [OpenFile.finish, hwaiting, overwrite]
          simp only [OpenFile.finishShape?, hheld, Option.some.injEq] at hcontent
          rw [hshape, hcontent]

end Sink

/-! ## Sinks of a run -/

namespace Artifacts

/-- No two texts go to the same file. -/
def Separate (a : Artifacts) : Prop :=
  ∀ target other place, (a.sink target).location? = some place →
    (a.sink other).location? = some place → target = other

/-- Artifacts and a tree after a text was appended to each sink. -/
structure Appended (before : Artifacts) (root : Node) (text : Target → String) (after : Artifacts)
    (afterRoot : Node) : Prop where
  location : ∀ target, (after.sink target).location? = (before.sink target).location?
  memory : ∀ target held, before.sink target = .memory held →
    after.sink target = .memory (held ++ text target)
  finish : before.Separate → ∀ target behind, (after.sink target).finish? afterRoot behind =
    (before.sink target).finish? root (encode (text target) ++ behind)
  elsewhere : ∀ place, (∀ target, (before.sink target).location? ≠ some place) →
    afterRoot.shapeAt? place = root.shapeAt? place

theorem Appended.refl (a : Artifacts) (root : Node) : Appended a root (fun _ => "") a root where
  location _ := rfl
  memory target held h := by rw [h, String.append_empty]
  finish _ target behind := by simp
  elsewhere _ _ := rfl

/-- Appending keeps sinks apart. -/
theorem Appended.separate {before after : Artifacts} {root afterRoot : Node}
    {text : Target → String} (h : Appended before root text after afterRoot)
    (hseparate : before.Separate) : after.Separate := by
  intro target other place htarget hother
  rw [h.location] at htarget hother
  exact hseparate target other place htarget hother

/-- A sink holds what it held before and the text behind it. -/
theorem Appended.holds {before after : Artifacts} {root afterRoot : Node}
    {text : Target → String} (h : Appended before root text after afterRoot)
    (hseparate : before.Separate) {target : Target} {held : Bytes}
    (hheld : (before.sink target).Holds root held) :
    (after.sink target).Holds afterRoot (held ++ encode (text target)) := by
  intro behind
  rw [h.finish hseparate, hheld, List.append_assoc]

/-- What is appended later comes behind. -/
theorem Appended.trans {before between after : Artifacts} {root betweenRoot afterRoot : Node}
    {first second : Target → String} (h : Appended before root first between betweenRoot)
    (h' : Appended between betweenRoot second after afterRoot) :
    Appended before root (fun target => first target ++ second target) after afterRoot where
  location target := (h'.location target).trans (h.location target)
  memory target held hheld := by
    rw [h'.memory target _ (h.memory target held hheld), String.append_assoc]
  finish hseparate target behind := by
    rw [h'.finish (h.separate hseparate), h.finish hseparate, encode_append, List.append_assoc]
  elsewhere place hplace := by
    have hplace' : ∀ target, (between.sink target).location? ≠ some place := by
      intro target
      rw [h.location]
      exact hplace target
    exact (h'.elsewhere place hplace').trans (h.elsewhere place hplace)

@[simp] theorem sink_set (a : Artifacts) (target other : Target) (sink : Sink) :
    (a.set target sink).sink other = if other = target then sink else a.sink other := rfl

/-- A step of one sink is a step of all sinks. -/
theorem appended_set {a : Artifacts} {root : Node} {target : Target} {text : String}
    {after : Sink × Node} (h : (a.sink target).Step root text after) :
    Appended a root (fun other => if other = target then text else "") (a.set target after.1)
      after.2 where
  location other := by
    rw [sink_set]
    split
    · rename_i heq
      rw [heq, h.location]
    · rfl
  memory other held hheld := by
    rw [sink_set]
    split
    · rename_i heq
      subst heq
      exact h.memory held hheld
    · rw [hheld, String.append_empty]
  finish hseparate other behind := by
    rw [sink_set]
    split
    · rename_i heq
      subst heq
      exact h.finish behind
    · rename_i hne
      -- the file of another text is not the one that was written to
      rw [encode_empty, List.nil_append]
      cases hother : a.sink other with
      | memory held => rfl
      | file f =>
          have hplace : (a.sink target).location? ≠ some f.location := by
            intro hplace
            have hlocation : (a.sink other).location? = some f.location := by rw [hother]; rfl
            exact hne (hseparate other target f.location hlocation hplace)
          simp only [Sink.finish?, h.elsewhere f.location hplace]
  elsewhere place hplace := h.elsewhere place (hplace target)

/-- Appending to one target leaves every other one as it was. -/
theorem appended_append (a : Artifacts) (root : Node) (target : Target) (text : String) :
    Appended a root (fun other => if other = target then text else "")
      (a.append root target text).1 (a.append root target text).2 :=
  appended_set ((a.sink target).step_append root text)

/-- Appending to some texts. -/
theorem appended_appendEach (a : Artifacts) (root : Node) (text : Target → String)
    {targets : List Target} (hnodup : targets.Nodup) :
    Appended a root (fun target => if target ∈ targets then text target else "")
      (a.appendEach root text targets).1 (a.appendEach root text targets).2 := by
  induction targets generalizing a root with
  | nil => simpa [appendEach] using Appended.refl a root
  | cons first targets ih =>
      obtain ⟨hfirst, hnodup⟩ := List.nodup_cons.1 hnodup
      have htext : (fun target => if target ∈ first :: targets then text target else "") =
          fun target => (if target = first then text first else "") ++
            if target ∈ targets then text target else "" := by
        funext target
        by_cases heq : target = first <;> simp [heq, hfirst]
      rw [htext]
      exact (a.appended_append root first (text first)).trans (ih _ _ hnodup)

theorem mem_targets (target : Target) : target ∈ Target.all := by
  cases target with
  | declarations => decide
  | concern artifact => cases artifact <;> decide

theorem targets_nodup : Target.all.Nodup := by
  decide

/-- Appending to every text. -/
theorem appended_appendAll (a : Artifacts) (root : Node) (text : Target → String) :
    Appended a root text (a.appendAll root text).1 (a.appendAll root text).2 := by
  simpa [mem_targets, appendAll] using a.appended_appendEach root text targets_nodup

/-- Flushing appends nothing. -/
theorem appended_flush (a : Artifacts) (root : Node) (targets : List Target) :
    Appended a root (fun _ => "") (a.flush root targets).1 (a.flush root targets).2 := by
  induction targets generalizing a root with
  | nil => exact Appended.refl a root
  | cons first targets ih =>
      have hfirst := appended_set ((a.sink first).step_flush root)
      simpa [flush] using hfirst.trans (ih _ _)

/-- After some texts are flushed, nothing waits for them, nor where nothing did before. -/
theorem flushed_flush (a : Artifacts) (root : Node) (targets : List Target) {target : Target}
    (h : target ∈ targets ∨ (a.sink target).Flushed) :
    ((a.flush root targets).1.sink target).Flushed := by
  induction targets generalizing a root with
  | nil => exact h.resolve_left List.not_mem_nil
  | cons first targets ih =>
      apply ih
      rw [sink_set]
      by_cases heq : target = first
      · rw [if_pos heq]
        exact Or.inr ((a.sink first).flushed_flush root)
      · rw [if_neg heq]
        exact h.imp_left fun hmem => (List.mem_cons.1 hmem).resolve_left heq

/-! ## Making the files -/

/-- Different targets have different file names. -/
theorem fileName_injective {target other : Target} (h : target.fileName = other.fileName) :
    target = other := by
  have hnodup : (Target.all.map Target.fileName).Nodup := by decide
  exact List.inj_on_of_nodup_map hnodup (mem_targets target) (mem_targets other) h

/-- The place of the file of a text. -/
def placeIn (dir : Location) (target : Target) : Location :=
  dir ++ [target.fileName]

/-- Different targets have different places in a directory. -/
theorem placeIn_injective {dir : Location} {target other : Target}
    (h : placeIn dir target = placeIn dir other) : target = other := by
  apply fileName_injective
  simpa [placeIn] using h

/-- Files are made in place of files or of nothing. They are empty, whatever was there, and all else
stays as it was. -/
theorem makeFiles_eq_ok {root made : Node} {dir : Location} {targets : List Target}
    (hdir : root.shapeAt? dir = some .directory) (h : makeFiles root dir targets = (made, .ok ())) :
    (∀ place ∈ targets.map (placeIn dir), root.shapeAt? place ≠ some .directory) ∧
      ∀ place, made.shapeAt? place =
        if place ∈ targets.map (placeIn dir) then some (.file []) else root.shapeAt? place := by
  induction targets generalizing root with
  | nil =>
      cases h
      simp
  | cons first targets ih =>
      simp only [makeFiles] at h
      split at h
      · rename_i next hmade
        obtain ⟨hfree, hnext⟩ := makeFile_eq_ok hdir hmade
        rw [← placeIn] at hfree hnext
        have hkept : next.shapeAt? dir = some .directory := by
          rw [hnext, if_neg (by simp [placeIn]), hdir]
        obtain ⟨hlater, hrest⟩ := ih hkept h
        rw [List.map_cons]
        refine ⟨?_, ?_⟩
        · intro place hplace
          by_cases hfirst : place = placeIn dir first
          · rw [hfirst]
            exact hfree
          · have hplace := hlater place ((List.mem_cons.1 hplace).resolve_left hfirst)
            rwa [hnext, if_neg hfirst] at hplace
        · intro place
          rw [hrest, hnext]
          by_cases hplace : place ∈ targets.map (placeIn dir) <;> simp [hplace]
      · cases h

/-- The sinks that write to the files of a directory. -/
def filesIn (dir : Location) : Artifacts :=
  ⟨fun target => .file { location := placeIn dir target }⟩

/-- The files of a directory are kept apart. -/
theorem separate_filesIn (dir : Location) : (filesIn dir).Separate := by
  intro target other place htarget hother
  cases htarget
  exact placeIn_injective (Option.some.inj hother).symm

/-- Files for all texts: they are empty and stand in the directory that the path names, and nothing
else changes but for the directories that the path needs. -/
theorem createIn_eq_ok {root made : Node} {dir : String} {artifacts : Artifacts}
    (h : createIn root dir = (made, .ok artifacts)) :
    ∃ location, artifacts = filesIn location ∧ made.LeadsTo (pathNames dir) location ∧
      (∀ target, made.shapeAt? (placeIn location target) = some (.file [])) ∧
      ∀ place, (∀ target, place ≠ placeIn location target) → KeptAt root made place := by
  unfold createIn at h
  split at h
  · cases h
  · rename_i between location hbetween
    obtain ⟨hextends, hleads⟩ := makeDirectory_eq_ok hbetween
    split at h
    · rename_i made' hmade
      cases h
      obtain ⟨hfree, hshape⟩ := makeFiles_eq_ok hleads.2 hmade
      refine ⟨location, rfl, ?_, ?_, ?_⟩
      · apply hleads.of_kept
        intro place hplace
        rw [hshape, if_neg fun hmem => hfree place hmem hplace, hplace]
      · intro target
        rw [hshape, if_pos (List.mem_map_of_mem (mem_targets target))]
      · intro place hplace
        have hother : place ∉ Target.all.map (placeIn location) := by
          intro hmem
          obtain ⟨target, _, heq⟩ := List.mem_map.1 hmem
          exact hplace target heq.symm
        exact (hextends place).trans (.of_eq (by rw [hshape, if_neg hother]))
    · cases h

/-- Texts that are appended to new files and flushed are what the files hold. -/
theorem shapeAt?_of_appended_filesIn {dir : Location} {made after : Node} {text : Target → String}
    {artifacts : Artifacts} (hmade : ∀ target, made.shapeAt? (placeIn dir target) = some (.file []))
    (h : Appended (filesIn dir) made text artifacts after)
    (hflushed : ∀ target, (artifacts.sink target).Flushed) (target : Target) :
    after.shapeAt? (placeIn dir target) = some (.file (encode (text target))) := by
  apply Sink.shapeAt?_of_flushed (hflushed target)
  · rw [h.location]
    rfl
  · rw [h.finish (separate_filesIn dir)]
    simp only [filesIn, Sink.finish?, hmade, Option.bind_some, OpenFile.finishShape?,
      Option.some.injEq]
    rw [OpenFile.finish_end rfl]
    simp

end Artifacts
end Storage
end TagSchema
