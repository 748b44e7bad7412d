import DesignMarkup.Markup.Module
import DesignMarkup.Proofs.Import.Statement
import DesignMarkup.Proofs.Layer.Soundness
import Mathlib.Data.List.Perm.Basic
/-!
The names that the imports of a transformed design bind. Each component of a package is bound once; two
packages that export a component of one name bind that name twice, as imports are never renamed.
-/
namespace DesignMarkup
open Markup

def ImportStatement.bound (s : ImportStatement) : List Identity :=
  s.names.map fun name => ⟨s.package, name⟩

theorem statementsOf_bound (package : String) (bindings : List ImportBinding) :
    ((statementsOf package bindings).flatMap ImportStatement.bound).Perm
      (bindings.map fun b => ⟨package, b.name⟩) := by
  have own : ∀ s ∈ statementsOf package bindings,
      s.bound = s.names.map fun name => (⟨package, name⟩ : Identity) := by
    intro s member
    rw [ImportStatement.bound, statementsOf_package member]
  calc (statementsOf package bindings).flatMap ImportStatement.bound
    _ = ((statementsOf package bindings).flatMap ImportStatement.names).map
        fun name => (⟨package, name⟩ : Identity) := by
      rw [List.flatMap_congr own, List.map_flatMap]
    _ |>.Perm ((bindings.map ImportBinding.name).map fun name => (⟨package, name⟩ : Identity)) :=
      (statementsOf_names package bindings).map _
    _ = bindings.map fun b => ⟨package, b.name⟩ := List.map_map

namespace Imports

def bound (imports : Imports) : List Identity :=
  imports.statements.flatMap ImportStatement.bound

theorem bound_perm_listed (imports : Imports) :
    imports.bound.Perm (imports.listed.map Dependency.identity) := by
  unfold bound statements listed
  rw [List.flatMap_assoc, List.map_flatMap]
  refine List.Perm.flatMap_left _ fun entry _ => ?_
  rw [List.map_map]
  exact statementsOf_bound entry.1 entry.2

end Imports

theorem importsOf_bound (claims : List Claim) :
    (importsOf claims).bound.Perm (identities claims) := by
  rw [← listed_identities]
  exact (importsOf claims).bound_perm_listed

theorem identities_nodup (claims : List Claim) : (identities claims).Nodup :=
  (identities_before claims).imp Identity.Before.ne

theorem components_nodup_iff {keys : List Identity} (distinct : keys.Nodup) :
    (keys.map Identity.component).Nodup ↔
      ∀ a ∈ keys, ∀ b ∈ keys, a.component = b.component → a.package = b.package := by
  rw [List.nodup_map_iff_inj_on distinct]
  constructor
  · intro injective a inA b inB same
    rw [injective a inA b inB same]
  · intro agree a inA b inB same
    have package := agree a inA b inB same
    cases a
    cases b
    simp only at same package
    rw [same, package]

def ComponentMapping.identity (m : ComponentMapping) : Identity := ⟨m.package, m.exportName⟩

namespace Layer

/-- A layer of the design is emitted as the mapped component. -/
def Uses (c : Config) (root : Layer) (m : ComponentMapping) : Prop :=
  ∃ l ∈ root.emitted c, l.form c = .component m

theorem claim?_eq_some {c : Config} {l : Layer} {claim : Claim} :
    l.claim? c = some claim ↔ ∃ m, l.form c = .component m ∧
      claim = ⟨l.caption.id, ⟨m.exportName, m.package, m.isDefault⟩⟩ := by
  unfold claim?
  cases l.form c <;> simp [eq_comm]

theorem mem_claimed {c : Config} {root : Layer} {key : Identity} :
    (∃ claim ∈ root.claims c, claim.dependency.identity = key) ↔
      ∃ m, root.Uses c m ∧ m.identity = key := by
  unfold claims Uses
  simp only [List.mem_filterMap, claim?_eq_some]
  constructor
  · rintro ⟨_, ⟨l, emitted, m, form, rfl⟩, same⟩
    exact ⟨m, ⟨l, emitted, form⟩, same⟩
  · rintro ⟨m, ⟨l, emitted, form⟩, same⟩
    exact ⟨_, ⟨l, emitted, m, form, rfl⟩, same⟩

end Layer

theorem transform_imports (c : Config) (root : Layer) :
    (transform c root).imports = importsOf (root.claims c) := by
  rw [← Layer.emit_claims c none root]
  rfl

theorem mem_bound {c : Config} {root : Layer} {key : Identity} :
    key ∈ (transform c root).imports.bound ↔ ∃ m, root.Uses c m ∧ m.identity = key := by
  rw [transform_imports, (importsOf_bound _).mem_iff, mem_identities, Layer.mem_claimed]

theorem bound_nodup (c : Config) (root : Layer) : (transform c root).imports.bound.Nodup := by
  rw [transform_imports, (importsOf_bound _).nodup_iff]
  exact identities_nodup _

theorem tag_of_bound {c : Config} {root : Layer} {key : Identity}
    (bound : key ∈ (transform c root).imports.bound) :
    ∃ e ∈ (transform c root).tree.visit, e.tag = key.component ∧ e.package = some key.package := by
  obtain ⟨m, ⟨l, emitted, form⟩, rfl⟩ := mem_bound.1 bound
  have given : l.tagAndPackage c = (m.exportName, some m.package) := by
    rw [Layer.tagAndPackage, form]
  have among : (m.exportName, some m.package) ∈ (root.emitted c).map (Layer.tagAndPackage c) :=
    List.mem_map.2 ⟨l, emitted, given⟩
  rw [← Layer.visit_tagAndPackage c none root] at among
  obtain ⟨e, visited, same⟩ := List.mem_map.1 among
  obtain ⟨tag, package⟩ := Prod.mk.inj same
  exact ⟨e, visited, tag, package⟩

theorem moduleSource_imports (imports : Imports) (component markup : String) :
    ∃ rest, moduleSource imports component markup = imports.render ++ rest := by
  unfold moduleSource
  dsimp only
  split
  · rename_i empty
    rw [empty]
    simp only [String.append_assoc]
    exact ⟨_, rfl⟩
  · simp only [String.append_assoc]
    exact ⟨_, rfl⟩

/-- A module binds each component of a package once, exactly those that its design uses, and nothing
under its own name. What it binds has distinct names if no two packages give the design a component of
one name. -/
theorem module_names_distinct_iff {c : Config} {root : Layer} {component : String} {tree : Frozen}
    (frozen : tree.element = (transform c root).tree)
    (fresh : ∀ e ∈ tree.element.visit, e.tag ≠ component) :
    let imports := (transform c root).imports
    (∃ rest, (plainModule imports component tree).source =
      "\n".intercalate (imports.statements.map ImportStatement.text) ++ rest) ∧
    (∀ key, key ∈ imports.bound ↔ ∃ m, root.Uses c m ∧ m.identity = key) ∧
    imports.bound.Nodup ∧
    component ∉ imports.bound.map Identity.component ∧
    ((imports.bound.map Identity.component).Nodup ↔
      ∀ m m', root.Uses c m → root.Uses c m' → m.exportName = m'.exportName →
        m.package = m'.package) := by
  intro imports
  have own : component ∉ imports.bound.map Identity.component := by
    intro bound
    obtain ⟨key, member, rfl⟩ := List.mem_map.1 bound
    obtain ⟨e, visited, tag, _⟩ := tag_of_bound member
    exact fresh e (frozen ▸ visited) tag
  refine ⟨?_, fun key => mem_bound, bound_nodup c root, own, ?_⟩
  · rw [← Imports.render_eq]
    exact moduleSource_imports imports component _
  · rw [components_nodup_iff (bound_nodup c root)]
    constructor
    · intro agree m m' uses uses'
      exact agree m.identity (mem_bound.2 ⟨m, uses, rfl⟩) m'.identity (mem_bound.2 ⟨m', uses', rfl⟩)
    · intro agree a inA b inB
      obtain ⟨m, uses, rfl⟩ := mem_bound.1 inA
      obtain ⟨m', uses', rfl⟩ := mem_bound.1 inB
      exact agree m m' uses uses'

/-- Two layers of the toolbar are one component of one package. -/
def frozenToolbar : Frozen := ⟨(transform toolbarConfig (toolbar "1:3")).tree, by decide⟩

theorem toolbar_names_distinct :
    frozenToolbar.element = (transform toolbarConfig (toolbar "1:3")).tree ∧
    (∀ e ∈ frozenToolbar.element.visit, e.tag ≠ "App") ∧
    ("App" :: (transform toolbarConfig (toolbar "1:3")).imports.bound.map Identity.component).Nodup := by
  have fresh : ∀ e ∈ frozenToolbar.element.visit, e.tag ≠ "App" := by decide
  obtain ⟨_, _, _, own, distinct⟩ := module_names_distinct_iff rfl fresh
  refine ⟨rfl, fresh, List.nodup_cons.2 ⟨own, distinct.2 ?_⟩⟩
  rintro m m' ⟨l, _, form⟩ ⟨l', _, form'⟩ _
  have onePackage : ∀ n ∈ toolbarConfig.components, n.package = "ui" := by decide
  rw [onePackage m (Layer.mapping_of_form form), onePackage m' (Layer.mapping_of_form form')]

/-- Two packages export a component of one name. -/
def rivalConfig : Config where
  components := [⟨"Button", "ui", none, false⟩, ⟨"Link", "antd", some "Button", false⟩]

def rivals : Layer :=
  placed "FRAME" "Rivals" "0:1" [placed "INSTANCE" "Button" "1:1" [], placed "INSTANCE" "Link" "1:2" []]

def frozenRivals : Frozen := ⟨(transform rivalConfig rivals).tree, by decide⟩

theorem rivals_imports : (transform rivalConfig rivals).imports =
    [("antd", [⟨"Button", false⟩]), ("ui", [⟨"Button", false⟩])] := by
  have sorted : identities (rivals.claims rivalConfig) = [⟨"antd", "Button"⟩, ⟨"ui", "Button"⟩] := by
    refine Identity.eq_of_before (identities_before _) (by unfold Identity.Before; decide) fun key => ?_
    have claimed : (rivals.claims rivalConfig).map (·.dependency.identity) =
      [⟨"ui", "Button"⟩, ⟨"antd", "Button"⟩] := rfl
    rw [mem_identities, ← List.mem_map, claimed]
    simp only [List.mem_cons, List.not_mem_nil]
    grind
  rw [transform_imports, importsOf, sorted]
  decide +kernel

theorem rivals_bound_twice :
    rivalConfig.check = .ok () ∧
    frozenRivals.element = (transform rivalConfig rivals).tree ∧
    (∀ e ∈ frozenRivals.element.visit, e.tag ≠ "App") ∧
    (∃ rest, (plainModule (transform rivalConfig rivals).imports "App" frozenRivals).source =
      "import \x7b Button \x7d from 'antd';\nimport \x7b Button \x7d from 'ui';" ++ rest) ∧
    ¬ ((transform rivalConfig rivals).imports.bound.map Identity.component).Nodup := by
  refine ⟨rfl, rfl, by decide, ?_, ?_⟩
  · obtain ⟨rest, source⟩ := moduleSource_imports (transform rivalConfig rivals).imports "App"
      (renderPlain moduleDepth frozenRivals).markup
    rw [rivals_imports] at source
    refine ⟨rest, ?_⟩
    rw [rivals_imports]
    exact source.trans (congrArg (· ++ rest) (by decide +kernel))
  · rw [rivals_imports]
    decide +kernel

end DesignMarkup
