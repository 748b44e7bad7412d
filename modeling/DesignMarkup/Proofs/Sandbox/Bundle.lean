import DesignMarkup.Proofs.Import.Conflict
import DesignMarkup.Proofs.Json.Compact
import DesignMarkup.Proofs.Url.Segments
import DesignMarkup.Sandbox.Bundle
/-!
The assets that a project bundles: every web address of an asset once, each under a name of its own.
A name is a stem of letters, digits and hyphens, perhaps a number, and an extension in the characters
of a segment.
-/
namespace DesignMarkup

def Url.isWebAddress (text : String) : Bool :=
  match parse text with
  | .ok u => u.isWeb
  | .error _ => false

def webAddresses (elements : List Element) : List String :=
  ((elements.filterMap (·.asset?)).filter Url.isWebAddress).eraseDups

theorem webAddresses_snoc (elements : List Element) (e : Element) :
    webAddresses (elements ++ [e]) =
      match e.asset? with
      | none => webAddresses elements
      | some url =>
        if Url.isWebAddress url ∧ url ∉ webAddresses elements then webAddresses elements ++ [url]
        else webAddresses elements := by
  cases shown : e.asset? with
  | none => simp [webAddresses, shown]
  | some url =>
    by_cases web : Url.isWebAddress url = true
    · simp only [webAddresses, List.filterMap_append, List.filterMap_cons, shown, List.filterMap_nil,
        List.filter_append, List.filter_cons, web, ↓reduceIte, List.filter_nil, eraseDups_snoc,
        List.mem_eraseDups, true_and, ite_not]
    · simp [webAddresses, shown, web]

namespace BundledAsset
open Url (SegmentText)

theorem extensionOf?_isSome (address : String) :
    (extensionOf? address).isSome = Url.isWebAddress address := by
  unfold extensionOf? Url.isWebAddress
  cases Url.parse address with
  | error fault => rfl
  | ok u => cases web : u.isWeb <;> simp [web]

theorem splitLast?_subset {s : String} {separator : Char} {front last : String}
    (cut : Text.splitLast? s separator = some (front, last)) : last.toList ⊆ s.toList := by
  unfold Text.splitLast? at cut
  split at cut
  · obtain ⟨-, rfl⟩ := Prod.mk.inj (Option.some.inj cut)
    intro c member
    rw [String.toList_ofList, List.mem_reverse] at member
    exact List.mem_reverse.1 ((List.takeWhile_sublist _).subset member)
  · exact nomatch cut

theorem stemChar_range {c : Char} (inStem : (c.isAlphanum || c == '-') = true) :
    0x20 < c.toNat ∧ c.toNat < 0x7f := by
  have bounds : 'A'.val.toNat = 65 ∧ 'Z'.val.toNat = 90 ∧ 'a'.val.toNat = 97 ∧ 'z'.val.toNat = 122 ∧
      '0'.val.toNat = 48 ∧ '9'.val.toNat = 57 := by decide
  simp only [Char.isAlphanum, Char.isAlpha, Char.isUpper, Char.isLower, Char.isDigit,
    Bool.or_eq_true, Bool.and_eq_true, decide_eq_true_eq, beq_iff_eq, ge_iff_le,
    UInt32.le_iff_toNat_le] at inStem
  change 0x20 < c.val.toNat ∧ c.val.toNat < 0x7f
  rcases inStem with letter | rfl
  · omega
  · decide

theorem stemChar_segmentText {c : Char} (inStem : (c.isAlphanum || c == '-') = true) :
    Url.isSlash .special c = false ∧ Url.inPath c = false := by
  obtain ⟨low, high⟩ := stemChar_range inStem
  constructor
  · rw [← Bool.not_eq_true]
    intro slash
    simp only [Url.isSlash, Bool.or_eq_true, Bool.and_eq_true, beq_iff_eq] at slash
    rcases slash with rfl | ⟨_, rfl⟩ <;> exact absurd inStem (by decide)
  · rw [← Bool.not_eq_true]
    intro encoded
    simp only [Url.inPath, Url.inFragment, Url.inControls, Bool.or_eq_true, decide_eq_true_eq,
      List.contains_iff_mem, List.mem_cons, List.not_mem_nil, or_false] at encoded
    rcases encoded with ((control | control) | mark) | mark
    · omega
    · omega
    · rcases mark with rfl | rfl | rfl | rfl | rfl <;> exact absurd inStem (by decide)
    · rcases mark with rfl | rfl | rfl | rfl <;> exact absurd inStem (by decide)

theorem asciiLower_segmentText {s : String} (free : SegmentText s.toList) :
    SegmentText (Text.asciiLower s).toList := by
  intro c member
  rw [Text.asciiLower, String.toList_ofList] at member
  obtain ⟨d, among, rfl⟩ := List.mem_map.1 member
  by_cases upper : d.isUpper = true
  · have letter : d.toLower.isAlpha = true := by
      rw [Char.isAlpha_toLower_eq_isAlpha, Char.isAlpha, upper, Bool.true_or]
    apply stemChar_segmentText
    rw [Char.isAlphanum, letter, Bool.true_or, Bool.true_or]
  · rw [Char.toLower_eq_of_not_isUpper upper]
    exact free d among

theorem extensionOf?_chars {address extension : String}
    (found : extensionOf? address = some extension) :
    extension.toList ≠ [] ∧ SegmentText extension.toList := by
  unfold extensionOf? at found
  split at found
  · cases found
  · rename_i u parsed
    split at found
    · rename_i web
      obtain ⟨items, path, free⟩ := Url.web_segmented parsed web
      have usual : "png".toList ≠ [] ∧ SegmentText "png".toList := by
        refine ⟨by decide, fun c member => stemChar_segmentText ?_⟩
        have letters : "png".toList.all fun c => c.isAlphanum || c == '-' := rfl
        exact List.all_eq_true.1 letters c member
      rw [← Option.some.inj found, Url.lastSegment?, path]
      dsimp only
      cases last : items.getLast? with
      | none => exact usual
      | some segment =>
        rw [Option.bind_some]
        cases cut : Text.splitLast? segment '.' with
        | none => exact usual
        | some parts =>
          obtain ⟨front, ending⟩ := parts
          rw [Option.map_some, Option.filter_some]
          split
          · rename_i kept
            constructor
            · simpa using kept
            · apply asciiLower_segmentText
              intro c member
              exact free segment (List.mem_of_getLast? last) c (splitLast?_subset cut member)
          · exact usual
    · exact nomatch found

def IsStem (stem : String) : Prop :=
  stem.toList ≠ [] ∧ ∀ c ∈ stem.toList, (c.isAlphanum || c == '-') = true

theorem stemOf_isStem (e : Element) : IsStem (stemOf e) := by
  have chars : ∀ c ∈ (Text.slug (e.id.getD e.name)).toList, (c.isAlphanum || c == '-') = true := by
    intro c member
    rw [Text.slug, String.toList_ofList] at member
    obtain ⟨d, _, rfl⟩ := List.mem_map.1 member
    unfold Text.slugChar
    split
    · rename_i kept
      rw [Bool.or_eq_true]
      exact .inl kept
    · decide
  simp only [stemOf]
  split
  · simp [IsStem, Char.isAlphanum, Char.isAlpha, Char.isLower]
  · rename_i long
    exact ⟨by simpa using long, chars⟩

def fileName (stem extension : String) (n : Nat) : String :=
  stem ++ (if n = 0 then "" else "-" ++ toString (n + 1)) ++ "." ++ extension

theorem candidate_eq (stem extension : String) (n : Nat) :
    candidate stem extension n = "public/assets/" ++ fileName stem extension n := by
  change "public/assets/" ++ stem ++ (if n = 0 then "" else "-" ++ toString (n + 1)) ++ "." ++
    extension = _
  simp only [fileName, String.append_assoc]

theorem candidate_injective (stem extension : String) :
    Function.Injective (candidate stem extension) := by
  intro m n same
  rw [candidate_eq, candidate_eq] at same
  have chars := congrArg String.toList same
  simp only [fileName, String.toList_append, List.append_assoc, List.append_cancel_left_eq] at chars
  rw [← List.append_assoc, ← List.append_assoc] at chars
  have numbers := List.append_cancel_right (List.append_cancel_right chars)
  by_cases first : m = 0 <;> by_cases second : n = 0
  · omega
  · simp [first, second] at numbers
  · simp [first, second] at numbers
  · rw [if_neg first, if_neg second, String.toList_append, String.toList_append] at numbers
    have := Json.natText_injective (List.append_cancel_left numbers)
    omega

/-- The names to try are distinct, and they are more than those that are taken; so the first that is free
is found. -/
theorem freeName_free (taken : List String) (stem extension : String) :
    freeName taken stem extension ∉ taken ∧
      ∃ n, freeName taken stem extension = candidate stem extension n ∧
        ∀ m < n, candidate stem extension m ∈ taken := by
  rw [freeName, List.find?_map]
  cases found : (List.range (taken.length + 1)).find?
      ((!taken.contains ·) ∘ candidate stem extension) with
  | none =>
    have allTaken : (List.range (taken.length + 1)).map (candidate stem extension) ⊆ taken := by
      intro name member
      obtain ⟨n, among, rfl⟩ := List.mem_map.1 member
      simpa using List.find?_eq_none.1 found n among
    have distinct := List.nodup_range.map (candidate_injective stem extension)
      (l := List.range (taken.length + 1))
    have short := distinct.length_le_of_subset allTaken
    rw [List.length_map, List.length_range] at short
    omega
  | some n =>
    obtain ⟨free, _, before⟩ := List.find?_range_eq_some.1 found
    refine ⟨by simpa using free, n, rfl, fun m earlier => ?_⟩
    simpa using before m earlier

structure NamedFor (a : BundledAsset) (e : Element) : Prop where
  shows : e.asset? = some a.url
  name : ∃ extension n, extensionOf? a.url = some extension ∧
    a.path = candidate (stemOf e) extension n

end BundledAsset

structure Bundled (elements : List Element) (assets : List BundledAsset) : Prop where
  urls : assets.map (·.url) = webAddresses elements
  paths : (assets.map (·.path)).Nodup
  named : ∀ a ∈ assets, ∃ e ∈ elements, a.NamedFor e

namespace Bundled
open BundledAsset
variable {elements : List Element} {assets : List BundledAsset}

theorem any_iff (h : Bundled elements assets) (url : String) :
    assets.any (·.url == url) = true ↔ url ∈ webAddresses elements := by
  rw [← h.urls, List.any_eq_true, List.mem_map]
  simp only [beq_iff_eq]

theorem kept (h : Bundled elements assets) {e : Element}
    (same : webAddresses (elements ++ [e]) = webAddresses elements) :
    Bundled (elements ++ [e]) assets where
  urls := h.urls.trans same.symm
  paths := h.paths
  named a member := by
    obtain ⟨d, among, named⟩ := h.named a member
    exact ⟨d, List.mem_append_left _ among, named⟩

theorem fresh (h : Bundled elements assets) {e : Element} {url extension : String}
    (shown : e.asset? = some url) (found : extensionOf? url = some extension)
    (new : webAddresses (elements ++ [e]) = webAddresses elements ++ [url]) :
    Bundled (elements ++ [e])
      (assets ++ [⟨url, freeName (assets.map (·.path)) (stemOf e) extension⟩]) := by
  obtain ⟨free, n, name, _⟩ := freeName_free (assets.map (·.path)) (stemOf e) extension
  constructor
  · rw [new, List.map_append, h.urls]
    rfl
  · rw [List.map_append]
    refine List.nodup_append.2 ⟨h.paths, List.nodup_singleton _, ?_⟩
    rintro path old _ last rfl
    rw [List.map_singleton, List.mem_singleton] at last
    rw [last] at old
    exact free old
  · intro a member
    rcases List.mem_append.1 member with old | last
    · obtain ⟨d, among, named⟩ := h.named a old
      exact ⟨d, List.mem_append_left _ among, named⟩
    · obtain rfl := List.mem_singleton.1 last
      exact ⟨e, by simp, shown, extension, n, found, name⟩

theorem add (h : Bundled elements assets) (e : Element) :
    Bundled (elements ++ [e]) (add assets e) := by
  have step := webAddresses_snoc elements e
  unfold BundledAsset.add
  cases shown : e.asset? with
  | none =>
    rw [shown] at step
    exact h.kept step
  | some url =>
    rw [shown] at step
    dsimp only at step ⊢
    simp only [← extensionOf?_isSome, ← h.any_iff] at step
    cases found : extensionOf? url with
    | none =>
      rw [found, if_neg fun both => Bool.false_ne_true both.1] at step
      exact h.kept step
    | some extension =>
      rw [found] at step
      dsimp only
      split
      · rename_i again
        rw [if_neg fun both => both.2 again] at step
        exact h.kept step
      · rename_i new
        rw [if_pos ⟨rfl, new⟩] at step
        exact h.fresh shown found step

theorem foldl (h : Bundled elements assets) (rest : List Element) :
    Bundled (elements ++ rest) (rest.foldl BundledAsset.add assets) := by
  induction rest generalizing elements assets with
  | nil => rwa [List.append_nil]
  | cons e rest ih =>
    have more := ih (h.add e)
    rwa [List.append_assoc] at more

end Bundled

theorem remoteAssets_bundled (tree : Element) : Bundled tree.visit (remoteAssets tree) := by
  have empty : Bundled [] [] := ⟨rfl, List.nodup_nil, List.forall_mem_nil _⟩
  exact empty.foldl tree.visit

end DesignMarkup
