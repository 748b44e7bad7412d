import DesignMarkup.Layer.Form
/-!
What a checked configuration promises of its mappings: each has a name for the element that it gives,
also where it is chosen for a layer.
-/
namespace DesignMarkup

namespace ComponentMapping
variable {seen : List String} {m : ComponentMapping}

theorem fault?_eq_none : m.fault? seen = none ↔ Text.isBlankText m.component = false ∧
    Text.isBlankText m.package = false ∧ m.exported.any Text.isBlankText = false ∧
    m.component ∉ seen := by
  unfold fault?
  cases Text.isBlankText m.component <;> cases Text.isBlankText m.package <;>
    cases m.exported.any Text.isBlankText <;> simp

theorem exportName_filled (sound : m.fault? seen = none) : Text.isBlankText m.exportName = false := by
  obtain ⟨component, _, exported, _⟩ := fault?_eq_none.1 sound
  unfold exportName
  cases given : m.exported with
  | none => exact component
  | some name =>
    rw [given] at exported
    exact exported

theorem exportName_ne_empty (sound : m.fault? seen = none) : m.exportName ≠ "" := by
  intro empty
  have filled := exportName_filled sound
  rw [empty] at filled
  exact nomatch filled

end ComponentMapping

theorem sound_of_checked {components : List ComponentMapping} {seen : List String}
    {m : ComponentMapping} (checked : mappingFault? seen components = none)
    (member : m ∈ components) : ∃ seen, m.fault? seen = none := by
  induction components generalizing seen with
  | nil => exact nomatch member
  | cons first rest ih =>
    rw [mappingFault?, Option.or_eq_none_iff] at checked
    rcases List.mem_cons.1 member with rfl | later
    · exact ⟨seen, checked.1⟩
    · exact ih checked.2 later

theorem Config.mappings_sound {c : Config} (checked : c.check = .ok ()) :
    ∀ m ∈ c.components, ∃ seen, m.fault? seen = none := by
  unfold check at checked
  split at checked
  · rename_i none
    exact fun m member => sound_of_checked none member
  · cases checked

theorem mem_of_mapping? {c : Config} {component : String} {m : ComponentMapping}
    (found : c.mapping? component = some m) : m ∈ c.components :=
  (List.mem_filter.1 (List.mem_of_getLast? found)).1

theorem Layer.mapping_of_form {c : Config} {l : Layer} {m : ComponentMapping}
    (component : l.form c = .component m) : m ∈ c.components := by
  have found : l.instanceOf?.bind c.mapping? = some m := by
    unfold form at component
    repeat' split at component
    all_goals simp_all
  obtain ⟨name, _, found⟩ := Option.bind_eq_some_iff.1 found
  exact mem_of_mapping? found

theorem Layer.bounds_of_component {c : Config} {l : Layer} {m : ComponentMapping}
    (component : l.form c = .component m) : ∃ b, l.bounds = some b := by
  unfold form at component
  cases placed : l.bounds with
  | some b => exact ⟨b, rfl⟩
  | none =>
    rw [placed] at component
    repeat' split at component
    all_goals simp_all

end DesignMarkup
