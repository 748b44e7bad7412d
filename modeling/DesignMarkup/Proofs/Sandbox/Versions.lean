import DesignMarkup.Proofs.Sandbox.Manifest
/-!
The versions in the manifest of a sandbox project. Four maps are laid over one another: the framework,
the packages of the mode, the imported packages and the pins. A package that comes with a version keeps
it, unless it is pinned, exactly if nothing is imported from it.
-/
namespace DesignMarkup.SandboxProject

/-- The version that a package comes with, for the framework or for the mode. -/
def builtIn? (mode : TransformMode) (package : String) : Option String :=
  (Dict.get? mode.runtimePackages package).or (Dict.get? framework package)

def Imported (imports : Imports) (package : String) : Prop :=
  package ∈ imports.keys ∧ ¬ LocalModule package

instance (package : String) : Decidable (LocalModule package) := inferInstanceAs (Decidable (_ ∨ _))

instance (imports : Imports) (package : String) : Decidable (Imported imports package) :=
  inferInstanceAs (Decidable (_ ∧ _))

def manifestVersion? (p : SandboxProject) (imports : Imports) (package : String) : Option Json :=
  ((p.manifest imports).get? "dependencies").bind (·.get? package)

/-- The version that a package is due: the pinned one, or the one that it comes with, or the latest. -/
def dueVersion (p : SandboxProject) (package : String) : String :=
  (p.versions.get? package).getD ((builtIn? p.mode package).getD "latest")

theorem manifestVersion?_eq (p : SandboxProject) (imports : Imports) (package : String) :
    p.manifestVersion? imports package = ((p.dependencies imports).get? package).map .string :=
  Dict.get?_mapValues Json.string (p.dependencies imports) package

theorem framework_nodup : (Dict.keys framework).Nodup := by decide

theorem runtimePackages_nodup (mode : TransformMode) : (Dict.keys mode.runtimePackages).Nodup := by
  cases mode <;> decide

theorem builtIn?_ne_latest (mode : TransformMode) (package : String) :
    builtIn? mode package ≠ some "latest" := by
  intro latest
  have known : "latest" ∈ mode.runtimePackages.map Prod.snd ∨ "latest" ∈ framework.map Prod.snd := by
    unfold builtIn? at latest
    cases runtime : Dict.get? mode.runtimePackages package with
    | some version =>
      rw [runtime, Option.some_or] at latest
      rw [latest] at runtime
      exact .inl (List.mem_map_of_mem (Dict.mem_of_get? runtime))
    | none =>
      rw [runtime, Option.none_or] at latest
      exact .inr (List.mem_map_of_mem (Dict.mem_of_get? latest))
  revert known
  cases mode <;> decide

theorem needed_get? (mode : TransformMode) (imports : Imports) (package : String) :
    Dict.get? (insertAll (insertAll (insertAll [] framework) mode.runtimePackages)
        ((imports.keys.filter (!isLocal ·)).map (·, "latest"))) package =
      if Imported imports package then some "latest" else builtIn? mode package := by
  have imported : package ∈ imports.keys.filter (!isLocal ·) ↔ Imported imports package := by
    rw [List.mem_filter, Imported, ← isLocal_iff, Bool.not_eq_true, Bool.not_eq_true']
  have known : Dict.get? (insertAll (insertAll [] framework) mode.runtimePackages) package =
      builtIn? mode package := by
    unfold insertAll builtIn?
    rw [Dict.get?_insertions (runtimePackages_nodup mode), Dict.get?_insertions framework_nodup]
    rw [Dict.get?, Option.or_none]
  rw [← known, insertAll, Dict.get?_insertions_const]
  simp only [imported]

theorem dependencies_get? {p : SandboxProject} (pins : p.versions.Sorted) (imports : Imports)
    (package : String) :
    (p.dependencies imports).get? package =
      (if Imported imports package then some "latest" else builtIn? p.mode package).map
        (p.versions.get? package).getD := by
  rw [← needed_get?, dependencies, insertAll]
  generalize insertAll (insertAll (insertAll [] framework) p.mode.runtimePackages) _ = needed
  have distinct : (Dict.keys (p.versions.filter fun pin => needed.contains pin.1)).Nodup := by
    apply List.Nodup.sublist _ pins.keys_nodup
    exact List.filter_sublist.map Prod.fst
  rw [Dict.get?_insertions distinct, Dict.get?_filter_key, Dict.contains]
  -- A pin counts only for a package that is there without it.
  cases needed.get? package with
  | none => simp
  | some version => cases p.versions.get? package <;> simp

/-- Every package of the manifest has its pinned version, or else the latest if it is imported, or else
the one that it comes with. So it has the version that it is due exactly if it is pinned, or comes with
no version, or is not imported. -/
theorem due_version_iff {p : SandboxProject} (pins : p.versions.Sorted) (imports : Imports)
    {package : String} (listed : package ∈ (p.dependencies imports).keys) :
    (∃ version, p.manifestVersion? imports package = some (.string version) ∧
      (p.versions.get? package = some version ∨
        p.versions.get? package = none ∧ Imported imports package ∧ version = "latest" ∨
        p.versions.get? package = none ∧ ¬ Imported imports package ∧
          builtIn? p.mode package = some version)) ∧
    (p.manifestVersion? imports package = some (.string (p.dueVersion package)) ↔
      p.versions.get? package ≠ none ∨ builtIn? p.mode package = none ∨
        ¬ Imported imports package) := by
  have needed : (if Imported imports package then some "latest" else builtIn? p.mode package) ≠ none := by
    intro absent
    rw [← Dict.contains_iff, Dict.contains, dependencies_get? pins, absent] at listed
    exact absurd listed Bool.false_ne_true
  have notLatest := builtIn?_ne_latest p.mode package
  rw [manifestVersion?_eq, dependencies_get? pins, dueVersion]
  cases p.versions.get? package with
  | some pin =>
    by_cases imported : Imported imports package
    · simp [imported]
    · obtain ⟨version, found⟩ := Option.ne_none_iff_exists'.1 (if_neg imported ▸ needed)
      simp [imported, found]
  | none =>
    by_cases imported : Imported imports package
    · cases found : builtIn? p.mode package with
      | none => simp [imported]
      | some version =>
        have other : "latest" ≠ version := by
          intro same
          exact notLatest (same ▸ found)
        simp [imported, other]
    · obtain ⟨version, found⟩ := Option.ne_none_iff_exists'.1 (if_neg imported ▸ needed)
      simp [imported, found]

def emotionProject : SandboxProject where
  mode := .emotion
  versions := [("@emotion/react", "11.13.0"), ("left-pad", "1.3.0")]

def fragments : Imports := [("@emotion/react", [⟨"Global", false⟩]), ("react", [⟨"Fragment", false⟩])]

theorem pinned_version_kept :
    emotionProject.versions.Sorted ∧
    "@emotion/react" ∈ (emotionProject.dependencies fragments).keys ∧
    emotionProject.manifestVersion? fragments "@emotion/react" = some (.string "11.13.0") := by
  have sorted : emotionProject.versions.Sorted := by
    unfold Dict.Sorted
    decide
  have listed : "@emotion/react" ∈ (emotionProject.dependencies fragments).keys := by decide +kernel
  have pinned : emotionProject.versions.get? "@emotion/react" ≠ none := by decide
  refine ⟨sorted, listed, ?_⟩
  exact (due_version_iff sorted fragments listed).2.2 (.inl pinned)

theorem imported_framework_unpinned :
    emotionProject.manifestVersion? fragments "react" = some (.string "latest") ∧
    emotionProject.versions.get? "react" = none ∧
    builtIn? emotionProject.mode "react" = some "^18.2.0" ∧
    emotionProject.dueVersion "react" = "^18.2.0" := by
  have unpinned : (emotionProject.dependencies fragments).get? "react" = some "latest" := by
    decide +kernel
  rw [manifestVersion?_eq, unpinned]
  constructor
  · rfl
  · decide

end DesignMarkup.SandboxProject
