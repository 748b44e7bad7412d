import DesignMarkup.Proofs.Dict
import DesignMarkup.Proofs.Text.Pieces
import DesignMarkup.Sandbox.Project
/-!
The packages that the manifest of a sandbox project lists: those of the framework, those of the mode,
and the imported ones that are not local. Pins add none.
-/
namespace DesignMarkup

/-- The path of a module of the project, and no package: it starts with a dot or a slash. -/
def LocalModule (package : String) : Prop :=
  package.toList.head? = some '.' ∨ package.toList.head? = some '/'

namespace SandboxProject

theorem isLocal_iff (package : String) : isLocal package = true ↔ LocalModule package := by
  have dot : Text.startsWith package "." = true ↔ package.toList.head? = some '.' :=
    Text.startsWith_char rfl package
  have slash : Text.startsWith package "/" = true ↔ package.toList.head? = some '/' :=
    Text.startsWith_char rfl package
  rw [isLocal, LocalModule, Bool.or_eq_true, dot, slash]

theorem mem_insertAll {d : Dict String} {entries : List (String × String)} {package : String} :
    package ∈ (insertAll d entries).keys ↔ package ∈ d.keys ∨ package ∈ entries.map Prod.fst :=
  Dict.mem_keys_insertions d entries

theorem mem_dependencies {p : SandboxProject} {imports : Imports} {package : String} :
    package ∈ (p.dependencies imports).keys ↔
      package ∈ framework.map Prod.fst ∨ package ∈ p.mode.runtimePackages.map Prod.fst ∨
        package ∈ imports.keys ∧ ¬ LocalModule package := by
  have imported : package ∈ ((imports.keys.filter (!isLocal ·)).map (·, "latest")).map Prod.fst ↔
      package ∈ imports.keys ∧ ¬ LocalModule package := by
    rw [List.map_map, ← isLocal_iff]
    simp
  -- A pin is kept only for a package that is there already, so it adds none.
  have needed (needed : Dict String) :
      package ∈ (insertAll needed (p.versions.filter fun pin => needed.contains pin.1)).keys ↔
        package ∈ needed.keys := by
    rw [mem_insertAll, or_iff_left_iff_imp]
    intro pinned
    obtain ⟨pin, kept, rfl⟩ := List.mem_map.1 pinned
    exact Dict.contains_iff.1 (List.mem_filter.1 kept).2
  rw [dependencies, needed, mem_insertAll, mem_insertAll, mem_insertAll, imported]
  simp only [Dict.keys, List.map_nil, List.not_mem_nil, false_or, or_assoc]

theorem dependencies_not_local {p : SandboxProject} {imports : Imports} {package : String}
    (listed : package ∈ (p.dependencies imports).keys) : ¬ LocalModule package := by
  have framework : ∀ package ∈ framework.map Prod.fst, isLocal package = false := by decide
  have runtime : ∀ package ∈ p.mode.runtimePackages.map Prod.fst, isLocal package = false := by
    cases p.mode <;> decide
  rcases mem_dependencies.1 listed with known | needed | ⟨_, kept⟩
  · rw [← isLocal_iff, framework package known]
    exact Bool.false_ne_true
  · rw [← isLocal_iff, runtime package needed]
    exact Bool.false_ne_true
  · exact kept

end SandboxProject
end DesignMarkup
