import DesignMarkup.Proofs.Sandbox.Bundle
/-!
The names of bundled files. The first element to show an address names its file, by the first of its
names that no file has yet; so a name never changes by what comes later in the tree.
-/
namespace DesignMarkup

def bundledFrom (elements : List Element) : List BundledAsset := elements.foldl BundledAsset.add []

/-- All that a bundle looks at: the address that an element shows, and what its file is named for. -/
def Element.exhibit (e : Element) : Option String × String := (e.asset?, e.id.getD e.name)

namespace BundledAsset

/-- In a list of elements the asset is first shown by `e`, after `before`. Its name is the first one
for `e` that none of the assets shown before has. -/
structure FirstShown (elements before : List Element) (e : Element) (a : BundledAsset) : Prop where
  starts : before ++ [e] <+: elements
  shows : e.asset? = some a.url
  first : ∀ d ∈ before, d.asset? ≠ some a.url
  name : ∃ extension n, extensionOf? a.url = some extension ∧
    a.path = candidate (stemOf e) extension n ∧
    ∀ m < n, candidate (stemOf e) extension m ∈ (bundledFrom before).map (·.path)

theorem add_cases (assets : List BundledAsset) (e : Element) :
    add assets e = assets ∨ ∃ a, add assets e = assets ++ [a] := by
  unfold add
  split
  · exact .inl rfl
  · split
    · exact .inl rfl
    · split
      · exact .inl rfl
      · exact .inr ⟨_, rfl⟩

theorem add_congr {e d : Element} (same : e.exhibit = d.exhibit) (assets : List BundledAsset) :
    add assets e = add assets d := by
  obtain ⟨asset, naming⟩ := Prod.mk.inj same
  have stem : stemOf e = stemOf d := by rw [stemOf, stemOf, naming]
  rw [add, add, asset, stem]

end BundledAsset
open BundledAsset

theorem bundledFrom_append (xs ys : List Element) :
    bundledFrom (xs ++ ys) = ys.foldl BundledAsset.add (bundledFrom xs) := List.foldl_append

theorem bundledFrom_bundled (elements : List Element) : Bundled elements (bundledFrom elements) := by
  have empty : Bundled [] [] := ⟨rfl, List.nodup_nil, List.forall_mem_nil _⟩
  exact empty.foldl elements

theorem bundledFrom_prefix (xs ys : List Element) : bundledFrom xs <+: bundledFrom (xs ++ ys) := by
  rw [bundledFrom_append]
  generalize bundledFrom xs = assets
  induction ys generalizing assets with
  | nil => exact List.prefix_refl _
  | cons e ys ih =>
    refine List.IsPrefix.trans ?_ (ih _)
    rcases add_cases assets e with kept | ⟨a, added⟩
    · rw [kept]
    · rw [added]
      exact List.prefix_append ..

theorem bundledFrom_congr {xs ys : List Element}
    (same : xs.map Element.exhibit = ys.map Element.exhibit) : bundledFrom xs = bundledFrom ys := by
  have step : ∀ assets, xs.foldl BundledAsset.add assets = ys.foldl BundledAsset.add assets := by
    induction xs generalizing ys with
    | nil =>
      obtain rfl := List.map_eq_nil_iff.1 same.symm
      exact fun _ => rfl
    | cons e xs ih =>
      obtain ⟨d, rest, rfl, first, later⟩ := List.map_eq_cons_iff.1 same.symm
      intro assets
      rw [List.foldl_cons, List.foldl_cons, add_congr first, ih later.symm]
  exact step []

theorem firstShown_of_added {before : List Element} {e : Element} {a : BundledAsset}
    (added : BundledAsset.add (bundledFrom before) e = bundledFrom before ++ [a]) :
    FirstShown (before ++ [e]) before e a := by
  have unchanged : bundledFrom before ≠ bundledFrom before ++ [a] := by simp
  unfold BundledAsset.add at added
  split at added
  · exact absurd added unchanged
  rename_i url shown
  split at added
  · exact absurd added unchanged
  rename_i extension found
  split at added
  · exact absurd added unchanged
  rename_i new
  obtain rfl := List.singleton_inj.1 (List.append_cancel_left added)
  obtain ⟨_, n, name, taken⟩ :=
    freeName_free ((bundledFrom before).map (·.path)) (stemOf e) extension
  refine ⟨List.prefix_refl _, shown, fun d among again => new ?_, extension, n, found, name, taken⟩
  rw [(bundledFrom_bundled before).any_iff, webAddresses, List.mem_eraseDups, List.mem_filter,
    List.mem_filterMap, ← extensionOf?_isSome, found]
  exact ⟨⟨d, among, again⟩, rfl⟩

theorem BundledAsset.FirstShown.append {xs before : List Element} {e : Element} {a : BundledAsset}
    (first : FirstShown xs before e a) (ys : List Element) : FirstShown (xs ++ ys) before e a :=
  { first with starts := first.starts.trans (List.prefix_append xs ys) }

theorem bundledFrom_firstShown {elements : List Element} {earlier later : List BundledAsset}
    {a : BundledAsset} (bundled : bundledFrom elements = earlier ++ a :: later) :
    ∃ before e, bundledFrom before = earlier ∧ FirstShown elements before e a := by
  induction elements using List.reverseRecOn generalizing later with
  | nil => exact absurd bundled (by simp [bundledFrom])
  | append_singleton xs e ih =>
    have passed {later : List BundledAsset} (bundled : bundledFrom xs = earlier ++ a :: later) :
        ∃ before d, bundledFrom before = earlier ∧ FirstShown (xs ++ [e]) before d a := by
      obtain ⟨before, d, same, first⟩ := ih bundled
      exact ⟨before, d, same, first.append [e]⟩
    rw [bundledFrom_append, List.foldl_cons, List.foldl_nil] at bundled
    rcases add_cases (bundledFrom xs) e with kept | ⟨b, added⟩
    · exact passed (kept.symm.trans bundled)
    · rw [added] at bundled
      rcases List.eq_nil_or_concat' later with rfl | ⟨kept, last, rfl⟩
      · obtain ⟨rfl, rfl⟩ := List.append_singleton_inj.1 bundled
        exact ⟨xs, e, rfl, firstShown_of_added added⟩
      · rw [← List.cons_append, ← List.append_assoc] at bundled
        exact passed (List.append_singleton_inj.1 bundled).1

/-- The assets of a tree are its web addresses, in the order of their first use and each under a path of
its own, by the first free name for the element that shows it first. In two trees that begin alike, the
addresses shown there are bundled alike, whatever follows. -/
theorem bundled_names_stable (tree : Element) :
    (remoteAssets tree).map (·.url) = webAddresses tree.visit ∧
    ((remoteAssets tree).map (·.path)).Nodup ∧
    (∀ earlier a later, remoteAssets tree = earlier ++ a :: later →
      ∃ before e, bundledFrom before = earlier ∧ FirstShown tree.visit before e a) ∧
    ∀ (other : Element) (n : Nat),
      (tree.visit.take n).map Element.exhibit = (other.visit.take n).map Element.exhibit →
      ∃ shared, shared <+: remoteAssets tree ∧ shared <+: remoteAssets other ∧
        shared.map (·.url) = webAddresses (tree.visit.take n) := by
  have bundled := bundledFrom_bundled tree.visit
  refine ⟨bundled.urls, bundled.paths, fun _ _ _ => bundledFrom_firstShown, fun other n same => ?_⟩
  have begins (tree : Element) : bundledFrom (tree.visit.take n) <+: remoteAssets tree := by
    have front := bundledFrom_prefix (tree.visit.take n) (tree.visit.drop n)
    rwa [List.take_append_drop] at front
  refine ⟨bundledFrom (tree.visit.take n), begins tree, ?_, (bundledFrom_bundled _).urls⟩
  rw [bundledFrom_congr same]
  exact begins other

def picture (id : Option String) (name url : String) : Element :=
  { (Element.of "img" name "VECTOR").withAsset url with id }

/-- The ids have one slug, and the last name is the second one for this slug. -/
def shelf (last : Element) : Element :=
  (Element.of "div" "Shelf" "FRAME").withChildren
    [picture (some "1:2") "One" "http://[::1]/a.PNG", picture (some "1-2") "Two" "http://[::1]/b.png",
      picture none "1-2-2" "http://[::1]/c.png", last]

theorem shelf_names_stable :
    let ends := [picture (some "9") "Nine" "http://[::1]/d.png", Element.of "hr" "Line" "LINE"]
    (∀ e ∈ ends, ∀ d ∈ ends, ((shelf e).visit.take 4).map Element.exhibit =
      ((shelf d).visit.take 4).map Element.exhibit) ∧
    ∀ e ∈ ends, ∀ d ∈ ends, ∃ shared, shared <+: remoteAssets (shelf e) ∧
      shared <+: remoteAssets (shelf d) ∧
      shared.map (·.url) = webAddresses ((shelf e).visit.take 4) := by
  intro ends
  have alike : ∀ e ∈ ends, ∀ d ∈ ends, ((shelf e).visit.take 4).map Element.exhibit =
      ((shelf d).visit.take 4).map Element.exhibit := fun e _ d _ => rfl
  exact ⟨alike, fun e first d second =>
    (bundled_names_stable (shelf e)).2.2.2 (shelf d) 4 (alike e first d second)⟩

example : (remoteAssets (shelf (Element.of "hr" "Line" "LINE"))).map (·.path) =
    ["public/assets/1-2.png", "public/assets/1-2-2.png", "public/assets/1-2-2-2.png"] := by
  decide +kernel

/-- Where the slug is empty, another word stands in its place. -/
theorem nameless_asset_unslugged :
    let e := picture none "" "http://[::1]/a.png"
    (remoteAssets e).map (·.path) = ["public/assets/asset.png"] ∧
    ∀ extension n, candidate (Text.slug (e.id.getD e.name)) extension n ≠ "public/assets/asset.png" := by
  intro e
  refine ⟨by decide +kernel, fun extension n same => ?_⟩
  have slug : Text.slug (e.id.getD e.name) = "" := rfl
  have split : "public/assets/asset.png" = "public/assets/" ++ "asset.png" := rfl
  rw [slug, candidate_eq, split, String.append_right_inj] at same
  have first := congrArg (·.toList.head?) same
  by_cases unnumbered : n = 0 <;> simp [fileName, unnumbered] at first

end DesignMarkup
