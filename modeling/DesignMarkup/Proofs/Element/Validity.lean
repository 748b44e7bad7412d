import DesignMarkup.Proofs.Element.ComponentClaim
import DesignMarkup.Proofs.Element.Occurrence
/-!
Checking a tree decides its rules, which are said here of the elements that the tree reaches and of the
places in it. A tree freezes exactly if it keeps them, and then an id finds the one element that has it.
-/
namespace DesignMarkup.Element

structure Valid (root : Element) : Prop where
  tagged : ∀ e, root.Reaches e → e.tag ≠ ""
  /-- What is claimed from a package is a dependency of the element, of the same kind. -/
  matched : ∀ e, root.Reaches e → ∀ package, e.package = some package →
    ⟨e.tag, package, e.isDefault⟩ ∈ e.dependencies.entries
  distinct : ∀ id path path', root.Carries id path → root.Carries id path' → path = path'

def StandsAlone (root e : Element) (id : String) : Prop :=
  ∃ path, root.branchAt? path = some e ∧ ∀ path', root.Carries id path' ↔ path' = path

section
variable {root e : Element} {id : String}

theorem ids_nodup_iff : root.ids.Nodup ↔
    ∀ id path path', root.Carries id path → root.Carries id path' → path = path' := by
  rw [List.nodup_iff_count_eq_one]
  constructor
  · intro once id path path' carried carried'
    have one := count_ids_eq_one.1 (once id (mem_ids_iff.2 ⟨path, carried⟩))
    exact one.unique carried carried'
  · intro distinct id member
    obtain ⟨path, carried⟩ := mem_ids_iff.1 member
    exact count_ids_eq_one.2 ⟨path, carried, fun path' other => distinct id path' path other carried⟩

theorem valid_iff : root.Valid ↔ (∀ e ∈ root.visit, e.ownViolations = []) ∧ root.ids.Nodup := by
  simp only [mem_visit_iff, ownViolations_eq_nil, ids_nodup_iff]
  constructor
  · intro valid
    exact ⟨fun e reached => ⟨valid.tagged e reached, valid.matched e reached⟩, valid.distinct⟩
  · intro ⟨own, distinct⟩
    exact ⟨fun e reached => (own e reached).1, fun e reached => (own e reached).2, distinct⟩

theorem mem_visit_iff_branchAt : e ∈ root.visit ↔ ∃ path, root.branchAt? path = some e := by
  induction root using induction_branches with
  | step root ih =>
    rw [visit_eq, List.mem_cons, mem_descendants]
    constructor
    · rintro (rfl | ⟨c, branch, below⟩)
      · exact ⟨[], rfl⟩
      · obtain ⟨path, inside⟩ := (ih c branch).1 below
        obtain ⟨i, at_⟩ := List.mem_iff_getElem?.1 branch
        exact ⟨i :: path, by rw [branchAt?, at_]; exact inside⟩
    · rintro ⟨path, found⟩
      cases path with
      | nil => exact .inl (Option.some.inj found).symm
      | cons i path =>
        obtain ⟨c, at_, inside⟩ := Option.bind_eq_some_iff.1 found
        have branch := List.mem_of_getElem? at_
        exact .inr ⟨c, branch, (ih c branch).2 ⟨path, inside⟩⟩

theorem find?_isSome (member : id ∈ root.ids) : ∃ e, root.find? id = some e := by
  obtain ⟨e, visited, hasId⟩ := List.mem_filterMap.1 member
  exact Option.isSome_iff_exists.1 (List.find?_isSome.2 ⟨e, visited, by simp [hasId]⟩)

theorem find?_standsAlone (distinct : root.ids.Nodup) (member : id ∈ root.ids) :
    ∃ e, root.find? id = some e ∧ root.StandsAlone e id := by
  obtain ⟨e, found⟩ := find?_isSome member
  have hasId : e.id = some id := by simpa using List.find?_some found
  obtain ⟨path, here⟩ := mem_visit_iff_branchAt.1 (List.mem_of_find?_eq_some found)
  have carried : root.Carries id path := ⟨e, here, hasId⟩
  refine ⟨e, found, path, here, fun path' => ⟨fun other => ?_, ?_⟩⟩
  · exact ids_nodup_iff.1 distinct id path' path other carried
  · rintro rfl
    exact carried

theorem repeatedIds_count (root : Element) :
    (root.violations.filterMap Violation.repeatedId?).length + root.ids.toFinset.card =
      root.visit.countP (·.id.isSome) := by
  rw [repeatedIds_eq, repeats_length, ids, List.length_filterMap_eq_countP]

end

/-- A tree has no violations, and freezes as it is, exactly if it is valid; then each of its ids finds the
element at the one place that carries it. In any tree as many ids are told to be repeated as there are
elements with an id, less the distinct ids. -/
theorem checking_decides_validity (root : Element) :
    (root.violations = [] ↔ root.Valid) ∧
    (root.violations.filterMap Violation.repeatedId?).length + root.ids.toFinset.card =
      root.visit.countP (·.id.isSome) ∧
    ((∃ frozen, root.freeze = .ok frozen) ↔ root.Valid) ∧
    ∀ frozen, root.freeze = .ok frozen → frozen.element = root ∧
      ∀ id ∈ frozen.element.ids, ∃ e, frozen.element.find? id = some e ∧
        frozen.element.StandsAlone e id := by
  have sound_iff : root.violations = [] ↔ root.Valid := violations_eq_nil.trans valid_iff.symm
  refine ⟨sound_iff, repeatedIds_count root, ⟨?_, ?_⟩, ?_⟩
  · rintro ⟨frozen, froze⟩
    exact sound_iff.1 (freezes_iff.1 ⟨frozen, froze, freeze_eq_ok.1 froze⟩)
  · intro valid
    obtain ⟨frozen, froze, _⟩ := freezes_iff.2 (sound_iff.2 valid)
    exact ⟨frozen, froze⟩
  · intro frozen froze
    exact ⟨freeze_eq_ok.1 froze, fun _ => find?_standsAlone (frozen_ids_nodup frozen)⟩

def labelledField : Element :=
  (((of "div" "Field" "FRAME").withId "1").withAttribute "icon"
      (.element ((of "i" "" "VECTOR").withId "2"))).withChildren
    [((of "Input" "Input" "INSTANCE").withId "3").withComponent "ui" true]

def frozenField : Frozen := ⟨labelledField, by decide⟩

theorem field_ids_found :
    labelledField.freeze = .ok frozenField ∧ frozenField.element.ids = ["1", "2", "3"] ∧
    ∀ id ∈ ["1", "2", "3"], ∃ e, frozenField.element.find? id = some e ∧
      frozenField.element.StandsAlone e id := by
  have froze : labelledField.freeze = .ok frozenField := freeze_eq_ok.2 rfl
  obtain ⟨_, _, _, found⟩ := checking_decides_validity labelledField
  exact ⟨froze, rfl, (found frozenField froze).2⟩

end DesignMarkup.Element
