import DesignMarkup.Element.Check
import DesignMarkup.Proofs.Dependency
/-!
The package that an element claims its tag from, and its dependency on it. The claim is overwritten each
time the element is made a component, the dependency is not: the two agree on the import kind exactly if
the kind is the one that came first.
-/
namespace DesignMarkup.Element

/-- The import kind with which the element has its own tag from the package, if it does. -/
def takenAs? (e : Element) (package : String) : Option Bool :=
  (e.dependencies.get? e.tag package).map (·.isDefault)

def withComponents (e : Element) (calls : List (String × Bool)) : Element :=
  calls.foldl (fun e call => e.withComponent call.1 call.2) e

def firstKind? (calls : List (String × Bool)) (package : String) : Option Bool :=
  (calls.find? (·.1 = package)).map (·.2)

section
variable {e : Element} {package : String}

theorem takenAs?_eq_some {isDefault : Bool} :
    e.takenAs? package = some isDefault ↔ ⟨e.tag, package, isDefault⟩ ∈ e.dependencies.entries := by
  rw [takenAs?, DependencySet.get?, Option.map_eq_some_iff]
  simp only [DependencySet.find?_eq_some]
  constructor
  · rintro ⟨d, ⟨member, same⟩, rfl⟩
    rwa [← Dependency.eq_of_identity same]
  · intro member
    exact ⟨_, ⟨member, rfl⟩, rfl⟩

theorem withComponent_takenAs? (e : Element) (other : String) (isDefault : Bool) (package : String) :
    (e.withComponent other isDefault).takenAs? package =
      (e.takenAs? package).or (firstKind? [(other, isDefault)] package) := by
  have here : (⟨other, e.tag⟩ : Identity) = ⟨package, e.tag⟩ ↔ other = package := by simp
  rw [takenAs?, withComponent, DependencySet.get?, DependencySet.find?_insert, Option.map_or]
  congr 1
  by_cases same : other = package <;> simp [firstKind?, Dependency.identity, same]

theorem withComponents_takenAs? (e : Element) (calls : List (String × Bool)) (package : String) :
    (e.withComponents calls).takenAs? package =
      (e.takenAs? package).or (firstKind? calls package) := by
  induction calls generalizing e with
  | nil => exact (Option.or_none).symm
  | cons call rest ih =>
    obtain ⟨other, isDefault⟩ := call
    have split : firstKind? ((other, isDefault) :: rest) package =
        (firstKind? [(other, isDefault)] package).or (firstKind? rest package) := by
      rw [firstKind?, ← List.singleton_append, List.find?_append, Option.map_or]
      rfl
    calc (e.withComponents ((other, isDefault) :: rest)).takenAs? package
      _ = ((e.withComponent other isDefault).takenAs? package).or (firstKind? rest package) :=
        ih (e.withComponent other isDefault)
      _ = (e.takenAs? package).or (firstKind? ((other, isDefault) :: rest) package) := by
        rw [withComponent_takenAs?, Option.or_assoc, ← split]

theorem packageViolation?_of_taken {kept : Bool} (taken : e.takenAs? package = some kept) :
    e.packageViolation? package =
      if kept = e.isDefault then none else some (.importKindMismatch e.label package) := by
  obtain ⟨d, found, rfl⟩ := Option.map_eq_some_iff.1 taken
  rw [packageViolation?, found]

theorem packageViolation?_eq_none :
    e.packageViolation? package = none ↔ ⟨e.tag, package, e.isDefault⟩ ∈ e.dependencies.entries := by
  rw [← takenAs?_eq_some]
  cases taken : e.takenAs? package with
  | none =>
    have missing : e.dependencies.get? e.tag package = none := Option.map_eq_none_iff.1 taken
    simp [packageViolation?, missing]
  | some kept => simp [packageViolation?_of_taken taken]

theorem ownViolations_eq_nil : e.ownViolations = [] ↔ e.tag ≠ "" ∧
    ∀ package, e.package = some package → ⟨e.tag, package, e.isDefault⟩ ∈ e.dependencies.entries := by
  simp only [ownViolations, List.append_eq_nil_iff, ite_eq_right_iff, List.cons_ne_nil, imp_false,
    Option.toList_eq_nil_iff, Option.bind_eq_none_iff, packageViolation?_eq_none]

theorem withComponent_ownViolations {kept isDefault : Bool}
    (taken : (e.withComponent package isDefault).takenAs? package = some kept) :
    (e.withComponent package isDefault).ownViolations =
      (if e.tag = "" then [.emptyTag (e.withComponent package isDefault).label] else []) ++
        if kept = isDefault then []
        else [.importKindMismatch (e.withComponent package isDefault).label package] := by
  have claim : ((e.withComponent package isDefault).package.bind
      (e.withComponent package isDefault).packageViolation?) =
      if kept = isDefault then none
      else some (.importKindMismatch (e.withComponent package isDefault).label package) :=
    packageViolation?_of_taken taken
  rw [ownViolations, claim]
  congr 1
  split <;> rfl

end

/-- An element that is made a component, after any calls that did so before, depends on the claimed
package with the import kind of the first call, or with that which it had at first. It is never told
to miss the dependency, and the kinds are told to differ exactly if that kind is not the claimed one. -/
theorem component_claim_matched_iff (e : Element) (calls : List (String × Bool)) (package : String)
    (isDefault : Bool) :
    let c := (e.withComponents calls).withComponent package isDefault
    let kept := ((e.takenAs? package).or (firstKind? calls package)).getD isDefault
    c.package = some package ∧ c.isDefault = isDefault ∧
    (∀ kind, ⟨c.tag, package, kind⟩ ∈ c.dependencies.entries ↔ kind = kept) ∧
    c.ownViolations = (if c.tag = "" then [.emptyTag c.label] else []) ++
      if kept = isDefault then [] else [.importKindMismatch c.label package] := by
  intro c kept
  have taken : c.takenAs? package = some kept := by
    have last : firstKind? [(package, isDefault)] package = some isDefault := by simp [firstKind?]
    rw [withComponent_takenAs?, withComponents_takenAs?, last, Option.or_some]
  refine ⟨rfl, rfl, fun kind => ?_, withComponent_ownViolations taken⟩
  rw [← takenAs?_eq_some, taken, Option.some_inj, eq_comm]

def reclaimedButton : Element :=
  ((of "Button" "Button" "INSTANCE").withComponent "ui" false).withComponent "ui" true

theorem reclaimed_button_mismatched :
    reclaimedButton.package = some "ui" ∧ reclaimedButton.isDefault = true ∧
    reclaimedButton.dependencies.get? reclaimedButton.tag "ui" = some ⟨"Button", "ui", false⟩ ∧
    reclaimedButton.violations = [.importKindMismatch "<Button> Button" "ui"] := by
  decide

end DesignMarkup.Element
