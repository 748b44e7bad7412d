import DesignMarkup.Proofs.Element.ComponentClaim
import DesignMarkup.Proofs.Import.Statement
import DesignMarkup.Proofs.Sandbox.Assembly
import DesignMarkup.Proofs.Sandbox.Manifest
/-!
Components, imports and the manifest fit together: what a frozen tree uses as a component, its imports
bind once, a statement brings it in, and the manifest of a project lists its package.
-/
namespace DesignMarkup

theorem Element.frozen_dependency (tree : Frozen) {e : Element} {package : String}
    (reached : tree.element.Reaches e) (component : e.package = some package) :
    ⟨e.tag, package, e.isDefault⟩ ∈ e.dependencies.entries :=
  (ownViolations_eq_nil.1 (frozen_ownViolations tree reached)).2 package component

theorem imports_bind_once {root e : Element} {d : Dependency} (reached : root.Reaches e)
    (member : d ∈ e.dependencies.entries) :
    ∃ bindings b, (d.package, bindings) ∈ root.imports ∧
      bindings.filter (·.name = d.component) = [b] := by
  have claimed : d.identity ∈ root.imports.listed.map Dependency.identity := by
    rw [Element.imports, listed_identities, mem_identities, Element.mem_claims_identity]
    exact ⟨e, reached, List.mem_map_of_mem member⟩
  obtain ⟨l, listed, same⟩ := List.mem_map.1 claimed
  obtain ⟨⟨package, bindings⟩, entry, among⟩ := List.mem_flatMap.1 listed
  obtain ⟨b, binding, rfl⟩ := List.mem_map.1 among
  obtain ⟨rfl, name⟩ : package = d.package ∧ b.name = d.component := by
    simpa [Dependency.identity] using same
  have distinct : (bindings.map ImportBinding.name).Nodup := by
    refine (importsOf_names_ascend entry).imp fun lower => ?_
    rintro rfl
    exact String.lt_irrefl _ lower
  have found : (bindings.find? (·.name = d.component)).isSome :=
    List.find?_isSome.2 ⟨b, binding, by simpa using name⟩
  obtain ⟨first, found⟩ := Option.isSome_iff_exists.1 found
  exact ⟨bindings, first, entry, by rw [filter_key distinct, found]; rfl⟩

/-- Every component of a frozen tree is bound once by the imports and by a statement that brings them
in, and the manifest of a project lists all packages of the imports but the modules of the project,
beside these only those of the framework and of the mode. -/
theorem components_closed (tree : Frozen) :
    (∀ e package, tree.element.Reaches e → e.package = some package →
      (∃ bindings b, tree.element.imports.get? package = some bindings ∧
        bindings.filter (·.name = e.tag) = [b]) ∧
      ∃ s : ImportStatement,
        s.package = package ∧ e.tag ∈ s.names ∧ tree.element.imports.Shows s) ∧
    ∀ (project : SandboxProject) (source : String) (shown : Element),
      ((project.files source tree.element.imports shown).get? "package.json" =
        some (.text (project.manifest tree.element.imports).pretty)) ∧
      ∃ versions : Dict Json,
        (project.manifest tree.element.imports).get? "dependencies" = some (.object versions) ∧
        (∀ package, package ∈ versions.keys ↔
          package ∈ SandboxProject.framework.map Prod.fst ∨
          package ∈ project.mode.runtimePackages.map Prod.fst ∨
          package ∈ tree.element.imports.keys ∧ ¬ LocalModule package) ∧
        ∀ package ∈ versions.keys, ¬ LocalModule package := by
  refine ⟨fun e package reached component => ?_, fun project source shown => ?_⟩
  · have member := Element.frozen_dependency tree reached component
    obtain ⟨bindings, b, entry, once⟩ := imports_bind_once reached member
    have binding : b ∈ bindings ∧ b.name = e.tag := by
      have kept : b ∈ bindings.filter (·.name = e.tag) := by
        rw [once]
        exact List.mem_singleton_self b
      simpa using kept
    obtain ⟨s, among, same, names⟩ := Imports.bound_of_mem entry binding.1
    exact ⟨⟨bindings, b, Dict.get?_of_mem (importsOf_sorted _) entry, once⟩,
      s, same, binding.2 ▸ names, Imports.shows_of_mem among⟩
  · have keys : Dict.keys ((project.dependencies tree.element.imports).mapValues Json.string) =
        (project.dependencies tree.element.imports).keys := by
      simp [Dict.keys, Dict.mapValues]
    refine ⟨SandboxProject.manifest_file _ _ _ _, _, rfl, ?_, ?_⟩
    · exact fun package => by rw [keys, SandboxProject.mem_dependencies]
    · exact fun package listed => SandboxProject.dependencies_not_local (keys ▸ listed)

def star : Element := (Element.of "Star" "" "VECTOR").withComponent "./icons" false

/-- A card from the package `ui`, with an icon of the project itself as an attribute and two further
components of the package as children. -/
def kit : Element :=
  { (Element.of "Card" "" "FRAME").withComponent "ui" true with
    attributes := ⟨none, none, none, [("icon", .element star)]⟩
    content := .children [(Element.of "Badge" "" "INSTANCE").withComponent "ui" true,
      (Element.of "Button" "" "INSTANCE").withComponent "ui" false] }

def frozenKit : Frozen := ⟨kit, by cbv⟩

def pinned : SandboxProject where
  mode := .tailwind
  versions := [("left-pad", "1.3.0"), ("ui", "2.0.0")]

theorem kit_imports : kit.imports =
    [("./icons", [⟨"Star", false⟩]),
      ("ui", [⟨"Badge", true⟩, ⟨"Button", false⟩, ⟨"Card", true⟩])] := by
  have sorted : identities kit.claims =
      [⟨"./icons", "Star"⟩, ⟨"ui", "Badge"⟩, ⟨"ui", "Button"⟩, ⟨"ui", "Card"⟩] := by
    refine Identity.eq_of_before (identities_before _) (by unfold Identity.Before; decide) fun key => ?_
    have claimed : kit.claims.map (·.dependency.identity) =
      [⟨"ui", "Card"⟩, ⟨"./icons", "Star"⟩, ⟨"ui", "Badge"⟩, ⟨"ui", "Button"⟩] := rfl
    rw [mem_identities, ← List.mem_map, claimed]
    simp only [List.mem_cons, List.not_mem_nil]
    grind
  rw [Element.imports, importsOf, sorted]
  decide +kernel

theorem kit_closed :
    kit.Reaches star ∧ star.package = some "./icons" ∧
    (∃ bindings b, kit.imports.get? "./icons" = some bindings ∧
      bindings.filter (·.name = "Star") = [b]) ∧
    (∃ s : ImportStatement, s.package = "./icons" ∧ "Star" ∈ s.names ∧ kit.imports.Shows s) ∧
    kit.imports.render = "import \x7b Star \x7d from './icons';\n" ++
      "import Badge, \x7b Button \x7d from 'ui';\nimport Card from 'ui';" ∧
    (pinned.dependencies kit.imports).keys =
      ["react", "react-dom", "react-scripts", "tailwindcss", "ui"] ∧
    (pinned.files "" kit.imports kit).get? "package.json" =
      some (.text (pinned.manifest kit.imports).pretty) := by
  have reached : kit.Reaches star :=
    .ofAttribute (List.mem_singleton_self ("icon", Attribute.element star)) (.self star)
  have bound := (components_closed frozenKit).1 star "./icons" reached rfl
  have file := ((components_closed frozenKit).2 pinned "" kit).1
  refine ⟨reached, rfl, bound.1, bound.2, ?_, ?_, file⟩
  · rw [kit_imports]
    decide +kernel
  · rw [kit_imports]
    decide +kernel

end DesignMarkup
