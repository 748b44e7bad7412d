import DesignMarkup.Proofs.Import.Aggregation
import Mathlib.Logic.Relation
/-!
Children that change places, anywhere in a tree, leave what the tree claims the same up to order. So
they change neither what is listed nor what is disputed; only the import kind of a disputed component
may be another one.
-/
namespace DesignMarkup

namespace Element

/-- One step: the children of one element change places, be it this one or one below. -/
inductive Reorders : Element → Element → Prop where
  | here {e : Element} {items others : List Element} (perm : items.Perm others) :
      Reorders { e with content := .children items } { e with content := .children others }
  | inChild {e c d : Element} {before after : List Element} (step : Reorders c d) :
      Reorders { e with content := .children (before ++ c :: after) }
        { e with content := .children (before ++ d :: after) }
  | inAttribute {e c d : Element} {key : String} {before after : List (String × Attribute)}
      (step : Reorders c d) :
      Reorders { e with attributes := { e.attributes with extra := before ++ (key, .element c) :: after } }
        { e with attributes := { e.attributes with extra := before ++ (key, .element d) :: after } }

abbrev Rearranged : Element → Element → Prop := Relation.ReflTransGen Reorders

def ownClaims (e : Element) : List Claim := e.dependencies.entries.map fun d => ⟨e.id, d⟩

theorem claims_eq (e : Element) : e.claims = e.ownClaims ++ e.branches.flatMap claims := by
  rw [claims, visit_eq, List.flatMap_cons, descendants_eq, List.flatMap_assoc]
  rfl

theorem claims_perm_of_branches {t u : Element} (own : t.ownClaims = u.ownClaims)
    (below : (t.branches.flatMap claims).Perm (u.branches.flatMap claims)) :
    t.claims.Perm u.claims := by
  rw [claims_eq, claims_eq, own]
  exact below.append_left _

theorem flatMap_claims_perm {c d : Element} (same : c.claims.Perm d.claims) (before after : List Element) :
    ((before ++ c :: after).flatMap claims).Perm ((before ++ d :: after).flatMap claims) := by
  simp only [List.flatMap_append, List.flatMap_cons]
  exact (same.append_right _).append_left _

theorem elements_between (a : Attributes) (before after : List (String × Attribute)) (key : String)
    (c : Element) : { a with extra := before ++ (key, Attribute.element c) :: after }.elements =
      { a with extra := before }.elements ++ (key, c) :: { a with extra := after }.elements := by
  simp only [Attributes.elements, List.filterMap_append, List.filterMap_cons]

theorem Reorders.claims_perm {t u : Element} (step : Reorders t u) : t.claims.Perm u.claims := by
  induction step with
  | here perm =>
    refine claims_perm_of_branches rfl ?_
    exact (perm.append_left _).flatMap_right _
  | @inChild e c d before after _ ih =>
    refine claims_perm_of_branches rfl ?_
    have same := flatMap_claims_perm ih (e.attributes.elements.map (·.2) ++ before) after
    rwa [List.append_assoc, List.append_assoc] at same
  | @inAttribute e c d key before after _ ih =>
    refine claims_perm_of_branches rfl ?_
    simp only [branches, elements_between, List.map_append, List.map_cons, List.append_assoc,
      List.cons_append]
    exact flatMap_claims_perm ih _ _

theorem Rearranged.claims_perm {t u : Element} (steps : Rearranged t u) : t.claims.Perm u.claims := by
  induction steps with
  | refl => exact .refl _
  | tail _ step ih => exact ih.trans step.claims_perm

end Element

section
variable {claims others : List Claim} (perm : claims.Perm others)
include perm

theorem identities_perm : identities claims = identities others := by
  refine Identity.eq_of_before (identities_before _) (identities_before _) fun key => ?_
  rw [mem_identities, mem_identities]
  exact exists_congr fun claim => and_congr_left' perm.mem_iff

theorem conflictsOf_identities_perm :
    (conflictsOf claims).map ImportConflict.identity =
      (conflictsOf others).map ImportConflict.identity := by
  rw [conflictsOf_identities, conflictsOf_identities, identities_perm perm]
  refine List.filter_congr fun key _ => Bool.eq_iff_iff.2 ?_
  simp only [conflict?_isSome, (perm.map _).mem_iff]

theorem firstDependency?_perm {key : Identity}
    (undisputed : key ∉ (conflictsOf claims).map ImportConflict.identity) :
    firstDependency? claims key = firstDependency? others key := by
  have claimed : (firstDependency? claims key).isSome ↔ (firstDependency? others key).isSome := by
    rw [firstDependency?_isSome, firstDependency?_isSome]
    exact exists_congr fun claim => and_congr_left' perm.mem_iff
  cases here : firstDependency? claims key with
  | none =>
    cases there : firstDependency? others key with
    | none => rfl
    | some d => simp [here, there] at claimed
  | some d =>
    obtain ⟨d', there⟩ := Option.isSome_iff_exists.1 (claimed.1 (by rw [here]; rfl))
    rw [there]
    have memHere := firstDependency?_mem here
    have memThere := (perm.map _).mem_iff.2 (firstDependency?_mem there)
    rw [Dependency.eq_of_identity (firstDependency?_identity here)] at memHere ⊢
    rw [Dependency.eq_of_identity (firstDependency?_identity there)] at memThere ⊢
    -- Were the kinds of the two first claims different, the component would be disputed.
    by_cases same : d.isDefault = d'.isDefault
    · rw [same]
    · refine absurd (mem_conflictsOf.2 fun isDefault => ?_) undisputed
      by_cases first : isDefault = d.isDefault
      · rwa [first]
      · rwa [Bool.eq_not.2 first, ← Bool.eq_not.2 (Ne.symm same)]

theorem importsOf_perm (undisputed : conflictsOf claims = []) : importsOf claims = importsOf others := by
  have binding : binding? claims = binding? others := by
    funext key
    rw [binding?_eq, binding?_eq, firstDependency?_perm perm (by simp [undisputed])]
  rw [importsOf, importsOf, identities_perm perm, binding]

end

theorem importsOf_mapValues_name (claims : List Claim) :
    (importsOf claims).mapValues (·.map ImportBinding.name) =
      ((identities claims).map Identity.package).eraseDups.map fun package =>
        (package, ((identities claims).filter (·.package == package)).map Identity.component) := by
  simp only [Dict.mapValues, importsOf, List.map_map, Function.comp_def, binding_names]

/-- The order of children matters neither for the packages and the names that are listed nor for what
is disputed; if nothing is disputed, it does not matter at all. -/
theorem imports_ignore_child_order {t u : Element} (rearranged : t.Rearranged u) :
    t.imports.mapValues (·.map ImportBinding.name) = u.imports.mapValues (·.map ImportBinding.name) ∧
    t.importConflicts.map ImportConflict.identity = u.importConflicts.map ImportConflict.identity ∧
    ((∀ key, ¬ t.TakesBothWays key) →
      t.imports = u.imports ∧ t.importConflicts = [] ∧ u.importConflicts = []) := by
  have perm : t.claims.Perm u.claims := rearranged.claims_perm
  have disputes := conflictsOf_identities_perm perm
  refine ⟨?_, disputes, fun undisputed => ?_⟩
  · rw [Element.imports, Element.imports, importsOf_mapValues_name, importsOf_mapValues_name,
      identities_perm perm]
  · have here : conflictsOf t.claims = [] := by
      rw [← List.map_eq_nil_iff, List.eq_nil_iff_forall_not_mem]
      exact fun key disputed => undisputed key fun isDefault =>
        Element.mem_claims_kind.1 (mem_conflictsOf.1 disputed isDefault)
    refine ⟨importsOf_perm perm here, here, ?_⟩
    rwa [here, List.map_nil, eq_comm, List.map_eq_nil_iff] at disputes

def imported (component id : String) (isDefault : Bool) : Element :=
  ((Element.of component "" "INSTANCE").withComponent "ui" isDefault).withId id

/-- Two elements side by side, below an attribute and once more as children without ids. -/
def board (first second : Element) : Element :=
  { (Element.of "div" "" "FRAME") with
    attributes := ⟨none, none, none,
      [("icon", .element ((Element.of "i" "" "GROUP").withChildren [first, second]))]⟩
    content := .children [{ first with id := none }, { second with id := none }] }

theorem board_rearranged (first second : Element) :
    (board first second).Rearranged (board second first) := by
  let icon (items : List Element) : Element := (Element.of "i" "" "GROUP").withChildren items
  have swapped : (icon [first, second]).Reorders (icon [second, first]) := .here (.swap ..)
  have inAttribute : (board first second).Reorders
      { board second first with content := (board first second).content } :=
    @Element.Reorders.inAttribute (board first second) _ _ "icon" [] [] swapped
  have atTop : Element.Reorders { board second first with content := (board first second).content }
      (board second first) :=
    .here (e := board second first) (.swap ..)
  exact .tail (.single inAttribute) atTop

theorem swapped_board_imports :
    (board (imported "Button" "a" false) (imported "Button" "b" true)).Rearranged
      (board (imported "Button" "b" true) (imported "Button" "a" false)) ∧
    ((board (imported "Button" "a" false) (imported "Button" "b" true)).imports.mapValues
        (·.map ImportBinding.name) =
      (board (imported "Button" "b" true) (imported "Button" "a" false)).imports.mapValues
        (·.map ImportBinding.name)) ∧
    (board (imported "Button" "a" false) (imported "Button" "b" true)).imports =
      [("ui", [⟨"Button", false⟩])] ∧
    (board (imported "Button" "b" true) (imported "Button" "a" false)).imports =
      [("ui", [⟨"Button", true⟩])] ∧
    (∀ key, ¬ (board (imported "Button" "a" false) (imported "Badge" "b" false)).TakesBothWays key) ∧
    (board (imported "Button" "a" false) (imported "Badge" "b" false)).imports =
      (board (imported "Badge" "b" false) (imported "Button" "a" false)).imports := by
  have undisputed (key : Identity) :
      ¬ (board (imported "Button" "a" false) (imported "Badge" "b" false)).TakesBothWays key := by
    intro both
    have claimed := Element.mem_claims_kind.2 (both true)
    have kinds : (board (imported "Button" "a" false) (imported "Badge" "b" false)).claims.map
        (·.dependency) = [⟨"Button", "ui", false⟩, ⟨"Badge", "ui", false⟩, ⟨"Button", "ui", false⟩,
          ⟨"Badge", "ui", false⟩] := rfl
    rw [kinds] at claimed
    simp at claimed
  have rearranged := board_rearranged (imported "Button" "a" false) (imported "Button" "b" true)
  have names := (imports_ignore_child_order rearranged).1
  have same := (imports_ignore_child_order
    (board_rearranged (imported "Button" "a" false) (imported "Badge" "b" false))).2.2 undisputed
  exact ⟨rearranged, names, by cbv, by cbv, undisputed, same.1⟩

end DesignMarkup
