import DesignMarkup.Proofs.Element.Occurrence
import DesignMarkup.Proofs.Finding.Resolution
/-!
Resolution of findings against a tree, as a filter: what passes in each mode, in which order, and what
a refusal tells. A finding resolves if it names ids and each of them has one place in the tree.
-/
namespace DesignMarkup.Finding

def Resolves (tree : Element) (f : Finding) : Prop :=
  f.nodeIds ≠ [] ∧ ∀ id ∈ f.nodeIds, tree.CarriedOnce id

instance (tree : Element) (f : Finding) : Decidable (f.Resolves tree) :=
  inferInstanceAs (Decidable (_ ∧ _))

def missing (tree : Element) (f : Finding) : List String :=
  if f.nodeIds = [] then ["(none)"] else f.nodeIds.filter (¬ tree.CarriedOnce ·)

theorem unresolved_eq (tree : Element) (f : Finding) : f.unresolved tree.ids = f.missing tree := by
  unfold unresolved missing
  by_cases none : f.nodeIds = []
  · rw [if_pos none, if_pos (List.isEmpty_iff.2 none)]
  · rw [if_neg none, if_neg (mt List.isEmpty_iff.1 none)]
    apply List.filter_congr
    intro id _
    rw [Bool.eq_iff_iff, bne_iff_ne, ne_eq, Element.count_ids_eq_one, decide_eq_true_iff]

theorem resolves_ids_iff {tree : Element} {f : Finding} :
    f.resolves tree.ids = true ↔ f.Resolves tree := by
  by_cases named : f.nodeIds = []
  · have listed : f.unresolved tree.ids = ["(none)"] := by rw [unresolved_eq, missing, if_pos named]
    simp [resolves, listed, Resolves, named]
  · rw [resolves_iff named, Resolves]
    simp only [Element.count_ids_eq_one, ne_eq, named, not_false_eq_true, true_and]

theorem resolveWith_cons (ids : List String) (mode : Boundary) (f : Finding) (fs : List Finding) :
    resolveWith ids mode (f :: fs) =
      if f.resolves ids then (resolveWith ids mode fs).map (f :: ·)
      else
        match mode with
        | .lenient => resolveWith ids .lenient fs
        | .strict => .error (.unresolved f.name (f.unresolved ids)) := by
  by_cases resolved : f.resolves ids = true
  · rw [if_pos resolved]
    cases mode with
    | lenient => simp [resolveWith, resolved, Except.map]
    | strict =>
      simp only [resolveWith, List.find?_cons, resolved, Bool.not_true]
      cases fs.find? (!resolves ids ·) <;> rfl
  · rw [if_neg resolved]
    cases mode with
    | lenient => simp [resolveWith, resolved]
    | strict => simp [resolveWith, resolved]

section
variable {tree : Element} {fs : List Finding}

theorem resolveAll_ok (resolved : ∀ f ∈ fs, f.Resolves tree) (mode : Boundary) :
    resolveAll tree mode fs = .ok fs :=
  resolveWith_ok (fun f member => resolves_ids_iff.2 (resolved f member)) mode

theorem resolveAll_lenient (tree : Element) (fs : List Finding) :
    resolveAll tree .lenient fs = .ok (fs.filter (·.Resolves tree)) := by
  rw [resolveAll, resolveWith]
  congr 1
  apply List.filter_congr
  intro f _
  rw [Bool.eq_iff_iff, resolves_ids_iff, decide_eq_true_iff]

theorem resolveAll_refused {before after : List Finding} {f : Finding}
    (resolved : ∀ g ∈ before, g.Resolves tree) (refused : ¬ f.Resolves tree) :
    resolveAll tree .strict (before ++ f :: after) =
      .error (.unresolved f.name (f.missing tree)) := by
  unfold resolveAll
  induction before with
  | nil => rw [List.nil_append, resolveWith_cons, if_neg (mt resolves_ids_iff.1 refused), unresolved_eq]
  | cons g rest ih =>
    obtain ⟨first, later⟩ := List.forall_mem_cons.1 resolved
    rw [List.cons_append, resolveWith_cons, if_pos (resolves_ids_iff.2 first), ih later]
    rfl

theorem strict_eq_ok {gs : List Finding} (passed : resolveAll tree .strict fs = .ok gs) :
    gs = fs ∧ ∀ f ∈ fs, f.Resolves tree := by
  have resolved : ∀ f ∈ fs, f.Resolves tree := by
    intro f member
    exact resolves_ids_iff.1 ((of_resolveWith_ok passed).2 rfl f member)
  rw [resolveAll_ok resolved] at passed
  exact ⟨(Except.ok.inj passed).symm, resolved⟩

theorem passed_resolves {mode : Boundary} {gs : List Finding}
    (passed : resolveAll tree mode fs = .ok gs) : ∀ g ∈ gs, g.Resolves tree := by
  intro g member
  rw [(of_resolveWith_ok passed).1] at member
  exact resolves_ids_iff.1 (List.mem_filter.1 member).2

end

/-- Lenient resolution keeps the findings whose ids, at least one, have one place each in the tree, in
their order. Strict resolution passes them all, or tells the name and the missing ids of the first that
it would have to leave out. Neither mode changes what it has passed, and what strict resolution passes
lenient resolution passes as well. -/
theorem resolution_filters (tree : Element) (fs : List Finding) :
    resolveAll tree .lenient fs = .ok (fs.filter (·.Resolves tree)) ∧
    (resolveAll tree .strict fs = .ok fs ↔ ∀ f ∈ fs, f.Resolves tree) ∧
    (∀ (before : List Finding) (f : Finding) (after : List Finding), fs = before ++ f :: after →
      (∀ g ∈ before, g.Resolves tree) → ¬ f.Resolves tree →
        resolveAll tree .strict fs = .error (.unresolved f.name (f.missing tree))) ∧
    (∀ mode, (resolveAll tree mode fs).bind (resolveAll tree mode) = resolveAll tree mode fs) ∧
    ∀ gs, resolveAll tree .strict fs = .ok gs → gs = fs ∧ resolveAll tree .lenient fs = .ok gs := by
  refine ⟨resolveAll_lenient tree fs, ?_, ?_, ?_, ?_⟩
  · constructor
    · intro passed
      exact (strict_eq_ok passed).2
    · intro all
      exact resolveAll_ok all .strict
  · intro before f after split early refused
    rw [split]
    exact resolveAll_refused early refused
  · intro mode
    cases passed : resolveAll tree mode fs with
    | error failure => rfl
    | ok gs => exact resolveAll_ok (passed_resolves passed) mode
  · intro gs passed
    obtain ⟨rfl, all⟩ := strict_eq_ok passed
    exact ⟨rfl, resolveAll_ok all .lenient⟩

/-- The id of the icon, an attribute, is that of a child as well. -/
def iconMenu : Element :=
  (((Element.of "div" "Menu" "FRAME").withId "0:1").withAttribute "icon"
    (.element ((Element.of "i" "Icon" "VECTOR").withId "1:1"))).withChildren
      [(Element.of "span" "Label" "TEXT").withId "1:2", (Element.of "b" "Mark" "TEXT").withId "1:1"]

def iconNote (name : String) (nodeIds : List String) : Finding :=
  { about name .info "" "" "" with nodeIds }

theorem icon_menu_filtered :
    let first := iconNote "twice" ["1:2", "0:1", "1:2"]
    let second := iconNote "partly" ["1:1", "0:1", "9:9", "1:1"]
    let third := iconNote "nowhere" []
    resolveAll iconMenu .lenient [first, second, third] = .ok [first] ∧
    resolveAll iconMenu .strict [first, second, third] =
      .error (.unresolved "partly" ["1:1", "9:9", "1:1"]) := by
  intro first second third
  obtain ⟨lenient, _, strict, _, _⟩ := resolution_filters iconMenu [first, second, third]
  have kept : [first, second, third].filter (·.Resolves iconMenu) = [first] := by decide +kernel
  have early : ∀ g ∈ [first], g.Resolves iconMenu := by decide +kernel
  have refused : ¬ second.Resolves iconMenu := by decide +kernel
  have told : second.missing iconMenu = ["1:1", "9:9", "1:1"] := by decide +kernel
  rw [kept] at lenient
  have failed := strict [first] second [third] rfl early refused
  rw [told] at failed
  exact ⟨lenient, failed⟩

end DesignMarkup.Finding
