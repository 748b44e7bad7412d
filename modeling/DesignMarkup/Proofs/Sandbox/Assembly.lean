import DesignMarkup.Proofs.Dict
import DesignMarkup.Proofs.Sandbox.Bundle
import DesignMarkup.Sandbox.Project
/-!
The assembly of a project: it always succeeds, and its files are the four of every project and one for
each web address of an asset, none in the place of another.
-/
namespace DesignMarkup

namespace BundledAsset
open Url (SegmentText)

theorem fileName_segmentText {stem extension : String} (isStem : IsStem stem)
    (free : SegmentText extension.toList) (n : Nat) :
    SegmentText (fileName stem extension n).toList := by
  have number : SegmentText (if n = 0 then "" else "-" ++ toString (n + 1)).toList := by
    split
    · exact List.forall_mem_nil _
    · rw [String.toList_append]
      refine List.forall_mem_append.2 ⟨List.forall_mem_singleton.2 (by decide), ?_⟩
      intro c member
      have digit := Decimal.allDigits_toDigits (n + 1) c (Nat.toList_repr ▸ member)
      refine stemChar_segmentText ?_
      rw [Char.isAlphanum, digit, Bool.or_true, Bool.true_or]
  unfold fileName
  rw [String.toList_append, String.toList_append, String.toList_append]
  refine List.forall_mem_append.2
    ⟨List.forall_mem_append.2 ⟨List.forall_mem_append.2 ⟨?_, number⟩, ?_⟩, free⟩
  · exact fun c member => stemChar_segmentText (isStem.2 c member)
  · exact List.forall_mem_singleton.2 (by decide)

theorem fileName_normal {stem : String} (isStem : IsStem stem) (extension : String) (n : Nat) :
    FilePath.isIdle (fileName stem extension n) = false ∧
      FilePath.componentOf (fileName stem extension n) = .normal (fileName stem extension n) := by
  obtain ⟨c, rest, chars⟩ := List.exists_cons_of_ne_nil isStem.1
  have letter := isStem.2 c (by rw [chars]; exact List.mem_cons_self)
  have first : (fileName stem extension n).toList.head? = some c := by
    unfold fileName
    rw [String.toList_append, String.toList_append, String.toList_append, chars]
    rfl
  have other (folder : String) (apart : folder.toList.head? ≠ some c) :
      fileName stem extension n ≠ folder := by
    rintro rfl
    exact apart first
  have notDot : some '.' ≠ some c := by
    intro same
    rw [← Option.some.inj same] at letter
    exact absurd letter (by decide)
  constructor
  · rw [FilePath.isIdle, Bool.or_eq_false_iff, beq_eq_false_iff_ne]
    refine ⟨?_, other "." notDot⟩
    cases empty : (fileName stem extension n).isEmpty with
    | false => rfl
    | true =>
      rw [String.isEmpty_iff.1 empty] at first
      exact nomatch first
  · rw [FilePath.componentOf, if_neg (other ".." notDot)]

theorem components_candidate {stem extension : String} (isStem : IsStem stem)
    (free : SegmentText extension.toList) (n : Nat) :
    FilePath.components (candidate stem extension n) =
      [.normal "public", .normal "assets", .normal (fileName stem extension n)] := by
  have noSlash : ∀ c ∈ (fileName stem extension n).toList, (c == '/') = false := by
    intro c member
    exact (Bool.or_eq_false_iff.1 (fileName_segmentText isStem free n c member).1).1
  have pieces : Text.split (candidate stem extension n) '/' =
      ["public", "assets", fileName stem extension n] := by
    have folders : "public/assets/".toList =
        "public".toList ++ '/' :: ("assets".toList ++ ['/']) := rfl
    rw [Text.split, candidate_eq, String.toList_append, folders, List.append_assoc, List.cons_append,
      List.append_assoc, List.singleton_append, Text.splitBy_separator (by simp) rfl,
      Text.splitBy_separator (by simp) rfl, Text.splitBy_piece noSlash]
    simp only [List.map_cons, List.map_nil, String.ofList_toList]
  have relative : Text.startsWith (candidate stem extension n) "/" = false := by
    rw [Text.startsWith, candidate_eq, String.toList_append]
    rfl
  obtain ⟨busy, normal⟩ := fileName_normal isStem extension n
  have kept : ["public", "assets", fileName stem extension n].filter (!FilePath.isIdle ·) =
      ["public", "assets", fileName stem extension n] := by
    have folders : FilePath.isIdle "public" = false ∧ FilePath.isIdle "assets" = false := by decide
    simp [folders, busy]
  have named : ["public", "assets", fileName stem extension n].map FilePath.componentOf =
      [.normal "public", .normal "assets", .normal (fileName stem extension n)] := by
    rw [List.map_cons, List.map_cons, List.map_cons, normal]
    rfl
  have first : ["public", "assets", fileName stem extension n].headD "" ≠ "." := by
    rw [List.headD_cons]
    decide
  simp only [FilePath.components, pieces, relative, kept, named, if_neg first, Bool.false_eq_true,
    ↓reduceIte, List.nil_append]

theorem pathFault?_candidate {stem extension : String} (isStem : IsStem stem)
    (free : SegmentText extension.toList) (n : Nat) :
    pathFault? (candidate stem extension n) = none := by
  have chars : (candidate stem extension n).toList =
      "public/assets/".toList ++ (fileName stem extension n).toList := by
    rw [candidate_eq, String.toList_append]
  have visible : Text.isBlankText (candidate stem extension n) = false := by
    rw [Text.isBlankText, chars]
    rfl
  have forward : (candidate stem extension n).toList.contains '\\' = false := by
    rw [chars, ← Bool.not_eq_true, List.contains_iff_mem, List.mem_append, not_or]
    constructor
    · simp
    · intro inside
      exact absurd (fileName_segmentText isStem free n _ inside).1 (by decide)
  rw [pathFault?, visible, forward, components_candidate isStem free n]
  rfl

theorem NamedFor.web {a : BundledAsset} {e : Element} (named : a.NamedFor e) :
    Url.isWebAddress a.url = true := by
  obtain ⟨extension, _, found, _⟩ := named.name
  rw [← extensionOf?_isSome, found]
  rfl

theorem NamedFor.fault {a : BundledAsset} {e : Element} (named : a.NamedFor e) :
    (SandboxFile.remote a.url).fault? a.path = none := by
  obtain ⟨extension, n, found, path⟩ := named.name
  obtain ⟨_, free⟩ := extensionOf?_chars found
  have web := named.web
  have content : (SandboxFile.remote a.url).contentFault? a.path = none := by
    unfold Url.isWebAddress at web
    rw [SandboxFile.contentFault?, SandboxFile.remote]
    split at web
    · rename_i u parsed
      rw [parsed]
      simp [web]
    · exact nomatch web
  rw [SandboxFile.fault?, content, path, pathFault?_candidate (stemOf_isStem e) free n]
  rfl

end BundledAsset

theorem BundledAsset.NamedFor.path_below {a : BundledAsset} {e : Element} (named : a.NamedFor e) :
    Text.startsWith a.path "public/assets/" = true := by
  obtain ⟨extension, n, _, path⟩ := named.name
  rw [Text.startsWith, path, candidate_eq, String.toList_append, List.isPrefixOf_iff_prefix]
  exact List.prefix_append _ _

namespace SandboxProject

def ownFiles (p : SandboxProject) (source : String) (imports : Imports) (tree : Element) :
    List (String × SandboxFile) :=
  [("package.json", .text (p.manifest imports).pretty),
    ("src/App.jsx", .text (pointAtBundled source (remoteAssets tree))),
    ("src/index.jsx", .text entrySource),
    ("public/index.html", .text (pageSource (p.title.getD "D2C Preview")))]

def bundledFiles (tree : Element) : List (String × SandboxFile) :=
  (remoteAssets tree).map fun a => (a.path, .remote a.url)

variable (p : SandboxProject) (source : String) (imports : Imports) (tree : Element)

theorem ownFiles_keys : Dict.keys (p.ownFiles source imports tree) =
    ["package.json", "src/App.jsx", "src/index.jsx", "public/index.html"] := rfl

theorem bundledFiles_keys : Dict.keys (bundledFiles tree) = (remoteAssets tree).map (·.path) := by
  rw [Dict.keys, bundledFiles, List.map_map]
  rfl

theorem ownFiles_fault : ∀ entry ∈ p.ownFiles source imports tree, entry.2.fault? entry.1 = none := by
  intro entry member
  have path : entry.1 ∈ Dict.keys (p.ownFiles source imports tree) := List.mem_map_of_mem member
  have sound : ∀ path ∈ ["package.json", "src/App.jsx", "src/index.jsx", "public/index.html"],
      pathFault? path = none ∧ hasBinaryExtension path = false := by
    decide +kernel
  have text : ∀ entry ∈ p.ownFiles source imports tree, entry.2.isBinary = false := by
    simp [ownFiles, SandboxFile.text]
  obtain ⟨inside, plain⟩ := sound entry.1 path
  rw [SandboxFile.fault?, SandboxFile.contentFault?, inside, plain, text entry member]
  rfl

theorem bundledFiles_fault : ∀ entry ∈ bundledFiles tree, entry.2.fault? entry.1 = none := by
  intro entry member
  obtain ⟨a, bundled, rfl⟩ := List.mem_map.1 member
  obtain ⟨e, _, named⟩ := (remoteAssets_bundled tree).named a bundled
  exact named.fault

theorem paths_distinct :
    (Dict.keys (p.ownFiles source imports tree ++ bundledFiles tree)).Nodup := by
  have bundled := remoteAssets_bundled tree
  rw [Dict.keys, List.map_append]
  refine List.nodup_append.2 ⟨?_, ?_, ?_⟩
  · rw [← Dict.keys, ownFiles_keys]
    decide
  · rw [← Dict.keys, bundledFiles_keys]
    exact bundled.paths
  · intro path own other assetPath same
    subst other
    have outside : ∀ path ∈ ["package.json", "src/App.jsx", "src/index.jsx", "public/index.html"],
        Text.startsWith path "public/assets/" = false := by
      decide
    rw [← Dict.keys, bundledFiles_keys] at assetPath
    obtain ⟨a, member, rfl⟩ := List.mem_map.1 assetPath
    obtain ⟨e, _, named⟩ := bundled.named a member
    have inside := outside a.path own
    rw [named.path_below] at inside
    cases inside

theorem files_perm : (p.files source imports tree).Perm
    (p.ownFiles source imports tree ++ bundledFiles tree) :=
  Dict.ofList_perm (paths_distinct p source imports tree)

theorem get?_file {path : String} {file : SandboxFile}
    (member : (path, file) ∈ p.ownFiles source imports tree ++ bundledFiles tree) :
    (p.files source imports tree).get? path = some file :=
  Dict.get?_of_mem (Dict.ofList_sorted _) ((files_perm p source imports tree).mem_iff.2 member)

theorem manifest_file : (p.files source imports tree).get? "package.json" =
    some (.text (p.manifest imports).pretty) :=
  get?_file p source imports tree (List.mem_append_left _ List.mem_cons_self)

theorem params_fault : (p.params source imports tree).fault? = none := by
  rw [SandboxParams.fault?, List.findSome?_eq_none_iff]
  intro entry member
  rcases List.mem_append.1 ((files_perm p source imports tree).subset member) with own | bundled
  · exact ownFiles_fault p source imports tree entry own
  · exact bundledFiles_fault tree entry bundled

theorem build_params : p.build source imports tree = .ok (p.params source imports tree) := by
  have sound : (p.params source imports tree).check = .ok () := by
    rw [SandboxParams.check, params_fault]
  rw [build, sound]
  rfl

end SandboxProject

/-- A project is always assembled. It has its own four files, and for each web address among the
assets one binary file with this address below the folder of the assets, and no others. -/
theorem project_assembled (p : SandboxProject) (source : String) (imports : Imports)
    (tree : Element) :
    let params := p.params source imports tree
    p.build source imports tree = .ok params ∧
    params.files.keys.Nodup ∧
    params.files.Perm
      ([("package.json", .text (p.manifest imports).pretty),
        ("src/App.jsx", .text (pointAtBundled source (remoteAssets tree))),
        ("src/index.jsx", .text SandboxProject.entrySource),
        ("public/index.html", .text (SandboxProject.pageSource (p.title.getD "D2C Preview")))] ++
        (remoteAssets tree).map fun a => (a.path, ⟨a.url, true⟩)) ∧
    (remoteAssets tree).map (·.url) =
      ((tree.visit.filterMap (·.asset?)).filter Url.isWebAddress).eraseDups ∧
    ∀ a ∈ remoteAssets tree, Text.startsWith a.path "public/assets/" = true := by
  intro params
  have bundled := remoteAssets_bundled tree
  have perm := SandboxProject.files_perm p source imports tree
  refine ⟨p.build_params source imports tree, ?_, perm, bundled.urls, ?_⟩
  · exact (perm.map Prod.fst).nodup_iff.2 (SandboxProject.paths_distinct p source imports tree)
  · intro a member
    obtain ⟨e, _, named⟩ := bundled.named a member
    exact named.path_below

end DesignMarkup
