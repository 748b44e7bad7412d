import DesignMarkup.Proofs.Config.Mapping
import DesignMarkup.Proofs.Element.ComponentClaim
import DesignMarkup.Proofs.Element.Repeats
import DesignMarkup.Proofs.Layer.Emitted
/-!
Under a checked configuration no element of a transformed design breaks a rule on its own: tags are
not empty, and what is claimed from a package is among the dependencies. Only an id can come again.
-/
namespace DesignMarkup

namespace Element

theorem native_ownViolations {e : Element} (tag : e.tag ≠ "") (native : e.package = none) :
    e.ownViolations = [] :=
  ownViolations_eq_nil.2 ⟨tag, by simp [native]⟩

theorem component_ownViolations {e : Element} (tag : e.tag ≠ "") (fresh : e.dependencies = .empty)
    (package : String) (isDefault : Bool) :
    (e.withComponent package isDefault).ownViolations = [] := by
  have new : e.takenAs? package = none := by
    rw [takenAs?, fresh]
    rfl
  have taken : (e.withComponent package isDefault).takenAs? package = some isDefault := by
    simp [withComponent_takenAs?, new, firstKind?]
  rw [withComponent_ownViolations taken, if_neg tag, if_pos rfl, List.nil_append]

end Element

namespace Layer

theorem emit_ownViolations {c : Config} (checked : c.check = .ok ()) (parent : Option ParentFrame)
    (l : Layer) : (l.emit c parent).tree.ownViolations = [] := by
  have native {e : Element} (tag : String) (nonempty : tag ≠ "") (tagged : e.tag = (l.bareElement tag).tag)
      (package : e.package = (l.bareElement tag).package) : e.ownViolations = [] :=
    Element.native_ownViolations (by rwa [tagged, bareElement_tag])
      (by rw [package, bareElement_package])
  rw [emit_eq]
  cases hasForm : l.form c with
  | placeholder detail => exact native "div" (by decide) rfl rfl
  | text => exact native "span" (by decide) rfl rfl
  | component m =>
    obtain ⟨seen, sound⟩ := c.mappings_sound checked m (mapping_of_form hasForm)
    obtain ⟨attributes, content, same, _⟩ := l.emitComponent_tree parent m
    have tag : (l.styledElement m.exportName parent .container).tag ≠ "" :=
      (l.bareElement_tag m.exportName).trans_ne (ComponentMapping.exportName_ne_empty sound)
    -- Attributes and content are no part of the rules.
    simp only [same]
    exact Element.component_ownViolations tag (l.bareElement_dependencies m.exportName) m.package
      m.isDefault
  | asset url => exact native "img" (by decide) rfl rfl
  | container => exact native "div" (by decide) rfl rfl

theorem emit_visit_ownViolations {c : Config} (checked : c.check = .ok ())
    (parent : Option ParentFrame) (l : Layer) :
    ∀ d ∈ (l.emit c parent).tree.visit, d.ownViolations = [] := by
  have same := visit_flatMap_emit (h := fun _ => []) (emit_ownViolations checked) parent l
  exact List.flatMap_eq_nil_iff.1 (same.trans (List.flatMap_eq_nil_iff.2 fun _ _ => rfl))

end Layer

/-- The violations of a transformed design are its ids that come again, one for each emitted layer
that has the id of an earlier one; so it freezes, as it is, exactly if the ids are distinct. -/
theorem violations_of_transformed {c : Config} (checked : c.check = .ok ()) (root : Layer) :
    (transform c root).tree.violations = (repeats (root.emittedIds c)).map .duplicateId ∧
    ((∃ frozen, (transform c root).tree.freeze = .ok frozen ∧
        frozen.element = (transform c root).tree) ↔ (root.emittedIds c).Nodup) := by
  have ids : (transform c root).tree.ids = root.emittedIds c := Layer.emit_ids c none root
  have violations : (transform c root).tree.violations =
      (repeats (root.emittedIds c)).map .duplicateId := by
    rw [← ids]
    exact Element.violations_repeats (Layer.emit_visit_ownViolations checked none root)
  refine ⟨violations, ?_⟩
  rw [Element.freezes_iff, violations, List.map_eq_nil_iff, repeats_eq_nil]

/-- Two components of the design are one of the package, with different import kinds. -/
def toolbarConfig : Config where
  components := [⟨"Chip", "ui", none, false⟩, ⟨"Badge", "ui", some "Chip", true⟩]

def placed (kind name id : String) (children : List Layer) : Layer where
  id := id
  name := name
  kind := kind
  bounds := some ⟨0.0, 0.0, 40.0, 20.0⟩
  children := children

def unplaced (id : String) : Layer := { id, kind := "RECTANGLE" }

def toolbar (last : String) : Layer :=
  placed "FRAME" "Toolbar" "0:1"
    [placed "INSTANCE" "Chip" "1:1" [], placed "INSTANCE" "Badge" "1:2" [], unplaced last]

theorem toolbarConfig_checked : toolbarConfig.check = .ok () := rfl

theorem toolbar_violations :
    toolbarConfig.check = .ok () ∧
    (transform toolbarConfig (toolbar "1:1")).tree.violations = [.duplicateId "1:1"] ∧
    ∃ frozen, (transform toolbarConfig (toolbar "1:3")).tree.freeze = .ok frozen ∧
      frozen.element = (transform toolbarConfig (toolbar "1:3")).tree := by
  refine ⟨toolbarConfig_checked, ?_, ?_⟩
  · have ids : (toolbar "1:1").emittedIds toolbarConfig = ["0:1", "1:1", "1:2", "1:1"] := rfl
    rw [(violations_of_transformed toolbarConfig_checked (toolbar "1:1")).1, ids]
    decide
  · have ids : (toolbar "1:3").emittedIds toolbarConfig = ["0:1", "1:1", "1:2", "1:3"] := rfl
    rw [(violations_of_transformed toolbarConfig_checked (toolbar "1:3")).2, ids]
    decide

end DesignMarkup
