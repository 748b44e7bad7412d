import DesignMarkup.Proofs.FilePath
import DesignMarkup.Proofs.Url.Segments
import DesignMarkup.Sandbox.Params
import DesignMarkup.Storage.Workspace
/-!
Where the files of a sandbox can lie. A path that is accepted never leads out of the folder that it
starts from, one segment after the other, and a file that is written for it lies in that folder.
-/
namespace DesignMarkup
open FilePath (segments HasExtension)

structure PlainPath (path : String) : Prop where
  visible : ∃ c ∈ path.toList, Text.isBlank c = false
  forward : '\\' ∉ path.toList
  relative : path.toList.head? ≠ some '/'
  noDot : (segments path).head? ≠ some "."
  noParent : ".." ∉ segments path

theorem pathFault?_eq_none (path : String) : pathFault? path = none ↔ PlainPath path := by
  have visible : Text.isBlankText path = false ↔ ∃ c ∈ path.toList, Text.isBlank c = false := by
    rw [Text.isBlankText, List.all_eq_false]
    simp
  have normal := FilePath.components_normal_iff path
  unfold pathFault?
  constructor
  · intro sound
    split at sound
    · cases sound
    · rename_i shown
      split at sound
      · cases sound
      · rename_i forward
        split at sound
        · rename_i names
          obtain ⟨relative, noDot, noParent⟩ := normal.1 names
          exact ⟨visible.1 (eq_false_of_ne_true shown), by simpa using forward, relative, noDot, noParent⟩
        · cases sound
  · intro plain
    have forward : path.toList.contains '\\' = false := by simpa using plain.forward
    rw [visible.2 plain.visible, forward, normal.2 ⟨plain.relative, plain.noDot, plain.noParent⟩]
    rfl

theorem hasBinaryExtension_iff (path : String) : hasBinaryExtension path = true ↔
    ∃ extension, HasExtension path extension ∧ Text.asciiLower extension ∈ binaryExtensions := by
  have extended {extension : String} (binary : Text.asciiLower extension ∈ binaryExtensions) :
      extension ≠ "" := by
    intro none
    rw [none] at binary
    exact absurd binary (by decide)
  rw [hasBinaryExtension, Option.any_eq_true]
  constructor
  · intro ⟨extension, found, listed⟩
    have binary : Text.asciiLower extension ∈ binaryExtensions := List.contains_iff_mem.1 listed
    exact ⟨extension, (FilePath.extension?_eq_some (extended binary)).1 found, binary⟩
  · intro ⟨extension, has, binary⟩
    have found := (FilePath.extension?_eq_some (extended binary)).2 has
    exact ⟨extension, found, List.contains_iff_mem.2 binary⟩

namespace SandboxFile

theorem contentFault?_eq_none (path : String) (file : SandboxFile) :
    file.contentFault? path = none ↔
      (hasBinaryExtension path = true → file.isBinary = true) ∧
      (file.isBinary = true →
        ∃ url, Url.parse file.content = .ok url ∧ (url.scheme = "http" ∨ url.scheme = "https")) := by
  simp only [← Url.isWeb_iff]
  unfold contentFault?
  cases file.isBinary with
  | true => cases Url.parse file.content <;> simp
  | false => simp

theorem fault?_eq_none (path : String) (file : SandboxFile) :
    file.fault? path = none ↔ PlainPath path ∧ file.contentFault? path = none := by
  rw [fault?, Option.or_eq_none_iff, pathFault?_eq_none]

end SandboxFile

theorem SandboxParams.check_ok (p : SandboxParams) :
    p.check = .ok () ↔ ∀ path file, (path, file) ∈ p.files → file.fault? path = none := by
  have sound : p.fault? = none ↔ ∀ path file, (path, file) ∈ p.files → file.fault? path = none := by
    rw [fault?, List.findSome?_eq_none_iff]
    simp
  rw [← sound, check]
  cases p.fault? <;> simp

namespace Location

def enter (place : Location) (segment : String) : Location :=
  if FilePath.isIdle segment then place
  else if segment = ".." then place.parent
  else place.child segment

def resolve (place : Location) (path : List String) : Location := path.foldl enter place

theorem contains_iff {place inner : Location} :
    place.contains inner = true ↔ place.base = inner.base ∧ place.names <+: inner.names := by
  simp [contains]

theorem contains_self (place : Location) : place.contains place = true :=
  contains_iff.2 ⟨rfl, List.prefix_rfl⟩

theorem contains_child {folder place : Location} (inside : folder.contains place = true)
    (name : String) : folder.contains (place.child name) = true := by
  obtain ⟨base, names⟩ := contains_iff.1 inside
  exact contains_iff.2 ⟨base, names.trans (List.prefix_append _ _)⟩

theorem enter_inside {folder place : Location} {segment : String} (level : segment ≠ "..")
    (inside : folder.contains place = true) : folder.contains (place.enter segment) = true := by
  by_cases idle : FilePath.isIdle segment = true
  · rw [enter, if_pos idle]
    exact inside
  · rw [enter, if_neg idle, if_neg level]
    exact contains_child inside segment

theorem resolve_inside {folder place : Location} {path : List String} (level : ".." ∉ path)
    (inside : folder.contains place = true) : folder.contains (place.resolve path) = true := by
  induction path generalizing place with
  | nil => exact inside
  | cons segment rest ih =>
    obtain ⟨here, later⟩ := List.ne_and_not_mem_of_not_mem_cons level
    exact ih later (enter_inside here.symm inside)

end Location

namespace Workspace
open FilePath (Component)

def Descends : Component → Prop
  | .root => False
  | .current => True
  | .parent => False
  | .normal _ => True

theorem named_eq_ok {place next : Location} {name : String} (found : named place name = .ok next) :
    next = place.child name := by
  unfold named at found
  split at found
  · cases found
  · exact (Except.ok.inj found).symm

theorem follow_last {w : Workspace} {place inner : Location} {name : String}
    (found : named place name = .ok inner) : w.follow place [.normal name] = .ok inner := by
  rw [follow, found]
  rfl

theorem follow_folder {w : Workspace} {place inner : Location} {name : String}
    (found : named place name = .ok inner) (kind : w.kindAt inner = .folder) (step : Component)
    (later : List Component) :
    w.follow place (.normal name :: step :: later) = w.follow inner (step :: later) := by
  rw [follow, found]
  simp only [bind, Except.bind, List.isEmpty_cons, Bool.false_eq_true, ↓reduceIte, kind]

theorem follow_normal {w : Workspace} {place next : Location} {name : String} {rest : List Component}
    (reached : w.follow place (.normal name :: rest) = .ok next) :
    named place name = .ok (place.child name) ∧
      (rest = [] ∧ next = place.child name ∨
        rest ≠ [] ∧ w.kindAt (place.child name) = .folder ∧
          w.follow (place.child name) rest = .ok next) := by
  cases found : named place name with
  | error fault =>
    rw [follow, found] at reached
    cases reached
  | ok inner =>
    obtain rfl := named_eq_ok found
    refine ⟨rfl, ?_⟩
    cases rest with
    | nil =>
      rw [follow_last found] at reached
      exact .inl ⟨rfl, (Except.ok.inj reached).symm⟩
    | cons step later =>
      cases kind : w.kindAt (place.child name) with
      | folder =>
        rw [follow_folder found kind] at reached
        exact .inr ⟨List.cons_ne_nil _ _, rfl, reached⟩
      | _ =>
        rw [follow, found] at reached
        simp only [bind, Except.bind, List.isEmpty_cons, Bool.false_eq_true, ↓reduceIte, kind] at reached
        cases reached

theorem follow_inside {w : Workspace} {folder place next : Location} {path : List Component}
    (descends : ∀ step ∈ path, Descends step) (inside : folder.contains place = true)
    (reached : w.follow place path = .ok next) : folder.contains next = true := by
  induction path generalizing place with
  | nil =>
    rw [follow] at reached
    exact Except.ok.inj reached ▸ inside
  | cons step rest ih =>
    obtain ⟨here, later⟩ := List.forall_mem_cons.1 descends
    cases step with
    | root => cases here
    | parent => cases here
    | current =>
      rw [follow] at reached
      exact ih later inside reached
    | normal name =>
      have child := Location.contains_child inside name
      obtain ⟨_, ⟨_, rfl⟩ | ⟨_, _, further⟩⟩ := follow_normal reached
      · exact child
      · exact ih later child further

theorem follow_append {w : Workspace} {place next : Location} {path more : List Component}
    (reached : w.follow place (path ++ more) = .ok next) :
    ∃ middle, w.follow place path = .ok middle ∧ w.follow middle more = .ok next := by
  induction path generalizing place with
  | nil => exact ⟨place, by rw [follow], reached⟩
  | cons step rest ih =>
    cases step with
    | root | current | parent =>
      rw [List.cons_append, follow] at reached
      rw [follow]
      exact ih reached
    | normal name =>
      rw [List.cons_append] at reached
      obtain ⟨found, ⟨none, rfl⟩ | ⟨_, kind, further⟩⟩ := follow_normal reached
      · obtain ⟨rfl, rfl⟩ := List.append_eq_nil_iff.1 none
        exact ⟨place.child name, follow_last found, by rw [follow]⟩
      · obtain ⟨middle, first, second⟩ := ih further
        cases rest with
        | nil =>
          rw [follow] at first
          obtain rfl := Except.ok.inj first
          exact ⟨place.child name, follow_last found, second⟩
        | cons step later =>
          exact ⟨middle, (follow_folder found kind step later).trans first, second⟩

theorem steps_descend {path : String} (plain : PlainPath path) : ∀ step ∈ steps path, Descends step := by
  intro step member
  unfold steps at member
  have relative : ¬ Text.startsWith path "/" = true := mt (FilePath.startsWith_slash path).1 plain.relative
  rw [if_neg relative, List.nil_append] at member
  obtain ⟨name, among, rfl⟩ := List.mem_map.1 member
  split
  · trivial
  · have level : name ≠ ".." := by
      rintro rfl
      exact plain.noParent (List.mem_filter.1 among).1
    rw [FilePath.componentOf, if_neg level]
    trivial

theorem steps_join {directory path : String} (named : directory ≠ "") (plain : PlainPath path) :
    steps (FilePath.join directory path) = steps directory ++ steps path := by
  obtain ⟨front, joined, own, head⟩ := FilePath.segments_join named plain.relative
  have kept : (segments directory).filter (!·.isEmpty) = front.filter (!·.isEmpty) := by
    rcases own with own | own
    · rw [own]
    · rw [own, List.filter_append]
      simp
  have rooted : Text.startsWith (FilePath.join directory path) "/" = Text.startsWith directory "/" := by
    rw [Bool.eq_iff_iff, FilePath.startsWith_slash, FilePath.startsWith_slash, head]
  have relative : Text.startsWith path "/" = false := by
    rw [← Bool.not_eq_true, FilePath.startsWith_slash]
    exact plain.relative
  unfold steps
  dsimp only
  rw [← segments, ← segments, ← segments, joined, rooted, relative, List.filter_append, kept,
    List.map_append, List.append_assoc]
  rfl

theorem locate_eq_ok {w : Workspace} {path : String} {place : Location}
    (found : w.locate path = .ok place) :
    path ≠ "" ∧ w.follow .working (steps path) = .ok place := by
  unfold locate at found
  cases sound : checkPath path with
  | error fault => simp [sound, bind, Except.bind] at found
  | ok =>
    by_cases empty : path = ""
    · subst empty
      simp [sound, bind, Except.bind, throw, throwThe, MonadExceptOf.throw] at found
    · have filled : path.isEmpty = false := by
        rw [← Bool.not_eq_true, String.isEmpty_iff]
        exact empty
      simp only [sound, bind, Except.bind, filled, Bool.false_eq_true, ↓reduceIte] at found
      exact ⟨empty, found⟩

theorem locate_join {w : Workspace} {directory path : String} {folder place : Location}
    (plain : PlainPath path) (start : w.locate directory = .ok folder)
    (reached : w.locate (FilePath.join directory path) = .ok place) :
    folder.contains place = true := by
  obtain ⟨named, first⟩ := locate_eq_ok start
  obtain ⟨_, whole⟩ := locate_eq_ok reached
  rw [steps_join named plain] at whole
  obtain ⟨middle, again, rest⟩ := follow_append whole
  rw [first] at again
  obtain rfl := Except.ok.inj again
  exact follow_inside (steps_descend plain) folder.contains_self rest

end Workspace

/-- Parameters are accepted exactly if every path is plain, files with the extension of a binary asset are
marked, and what is marked is a web address. From any folder the segments of an accepted path then lead,
one after the other, to places in this folder only, and a file that is written for it lies there. -/
theorem accepted_files_confined (p : SandboxParams) :
    (p.check = .ok () ↔ ∀ path file, (path, file) ∈ p.files →
      PlainPath path ∧
      (∀ extension, HasExtension path extension → Text.asciiLower extension ∈ binaryExtensions →
        file.isBinary = true) ∧
      (file.isBinary = true →
        ∃ url, Url.parse file.content = .ok url ∧ (url.scheme = "http" ∨ url.scheme = "https"))) ∧
    ∀ path file, p.check = .ok () → (path, file) ∈ p.files →
      (∀ (folder : Location) n, folder.contains (folder.resolve ((segments path).take n)) = true) ∧
      ∀ (w : Workspace) directory folder place, w.locate directory = .ok folder →
        w.locate (FilePath.join directory path) = .ok place → folder.contains place = true := by
  have sound (path : String) (file : SandboxFile) : file.fault? path = none ↔
      PlainPath path ∧
      (∀ extension, HasExtension path extension → Text.asciiLower extension ∈ binaryExtensions →
        file.isBinary = true) ∧
      (file.isBinary = true →
        ∃ url, Url.parse file.content = .ok url ∧ (url.scheme = "http" ∨ url.scheme = "https")) := by
    rw [SandboxFile.fault?_eq_none, SandboxFile.contentFault?_eq_none, hasBinaryExtension_iff]
    simp only [forall_exists_index, and_imp]
  constructor
  · rw [p.check_ok]
    simp only [sound]
  · intro path file accepted member
    have plain : PlainPath path := ((sound path file).1 (p.check_ok.1 accepted path file member)).1
    constructor
    · intro folder n
      have level : ".." ∉ (segments path).take n := fun up => plain.noParent (List.mem_of_mem_take up)
      exact Location.resolve_inside level folder.contains_self
    · intro w directory folder place start reached
      exact Workspace.locate_join plain start reached

def idlePaths : SandboxParams where
  files := [("img//logo.PNG/.", .remote "http://[::1]/logo"), ("src/./...", .text "")]

theorem idle_paths_confined :
    let outside : Workspace := { folders := [⟨.above 1, ["out"]⟩, ⟨.above 1, ["out", "src"]⟩] }
    idlePaths.check = .ok () ∧ ("src/./...", .text "") ∈ idlePaths.files ∧
    outside.locate "../out/" = .ok ⟨.above 1, ["out"]⟩ ∧
    outside.locate (FilePath.join "../out/" "src/./...") = .ok ⟨.above 1, ["out", "src", "..."]⟩ ∧
    (∀ (folder : Location) n,
      folder.contains (folder.resolve ((segments "src/./...").take n)) = true) ∧
    (⟨.above 1, ["out"]⟩ : Location).contains ⟨.above 1, ["out", "src", "..."]⟩ = true := by
  intro outside
  have accepted : idlePaths.check = .ok () := by
    have sound : idlePaths.fault? = none := by decide +kernel
    rw [SandboxParams.check, sound]
  have member : ("src/./...", SandboxFile.text "") ∈ idlePaths.files := by decide
  have start : outside.locate "../out/" = .ok ⟨.above 1, ["out"]⟩ := by rfl
  have reached : outside.locate (FilePath.join "../out/" "src/./...") =
      .ok ⟨.above 1, ["out", "src", "..."]⟩ := by rfl
  obtain ⟨inside, written⟩ := (accepted_files_confined idlePaths).2 _ _ accepted member
  exact ⟨accepted, member, start, reached, inside, written outside _ _ _ start reached⟩

end DesignMarkup
