import DesignMarkup.Proofs.Finding.Account
import DesignMarkup.Proofs.Layer.Path
/-!
Absolute elements. A layer leaves the flow of the layer above if that one does not lay out its children
or if the layer asks for it. Its element is then placed at the distance of the two layers' origins, in
an element that is positioned itself.
-/
namespace DesignMarkup
open Decimal (round2)

namespace Element

def position (e : Element) : Option Position := e.style.layout.position

def offsets (e : Element) : Option Float × Option Float :=
  (e.style.layout.left, e.style.layout.top)

/-- What is absolute right below the element is placed against its corner. -/
def IsPositioned (e : Element) : Prop :=
  e.position = some .relative ∨ e.position = some .absolute

end Element

namespace Layer

theorem layoutStyle_cases (l : Layer) (parent : Option ParentFrame) :
    (∃ p b, parent = some p ∧ l.bounds = some b ∧ (p.autoLayout = false ∨ l.isAbsolute = true) ∧
      (l.layoutStyle parent).position = some .absolute ∧
      (l.layoutStyle parent).left = some (round2 (b.x - p.bounds.x)) ∧
      (l.layoutStyle parent).top = some (round2 (b.y - p.bounds.y))) ∨
    ((∀ p b, parent = some p → l.bounds = some b → ¬ (p.autoLayout = false ∨ l.isAbsolute = true)) ∧
      (l.layoutStyle parent).position = (if l.placesChildren then some .relative else none) ∧
      (l.layoutStyle parent).left = none ∧ (l.layoutStyle parent).top = none) := by
  unfold layoutStyle
  dsimp only
  split
  · rename_i p b bounds absolute
    left
    exact ⟨p, b, rfl, bounds, by simpa using absolute, rfl, rfl, rfl⟩
  · rename_i otherwise
    right
    refine ⟨?_, rfl, rfl, rfl⟩
    rintro p b rfl bounds leaves
    exact otherwise p b (by simpa using leaves) rfl bounds

def LeavesFlow (above l : Layer) : Prop := above.isAutoLayout = false ∨ l.isAbsolute = true

theorem placesChildren_of_leaves {above l : Layer} (child : l ∈ above.children)
    (leaves : above.LeavesFlow l) : above.placesChildren = true := by
  have filled : above.children.isEmpty = false :=
    List.isEmpty_eq_false_iff.2 (List.ne_nil_of_mem child)
  unfold placesChildren
  rcases leaves with free | asked
  · simp [filled, free]
  · have some : above.children.any isAbsolute = true := List.any_eq_true.2 ⟨l, child, asked⟩
    simp [filled, some]

theorem emit_layout (c : Config) (parent : Option ParentFrame) (l : Layer) :
    (l.emit c parent).tree.style.layout =
      match l.form c with
      | .placeholder _ => {}
      | _ => l.layoutStyle parent := by
  rw [emit_eq]
  cases l.form c with
  | placeholder detail => exact congrArg Style.layout (l.bareElement_style "div")
  | text => rfl
  | component m =>
    obtain ⟨attributes, content, same, _⟩ := l.emitComponent_tree parent m
    simp only [same]
    rfl
  | asset url => rfl
  | container => rfl

/-- The element leaves the flow with its layer. If it does, it has its place in a positioned element, at
the distance of the two layers, and else no offsets. -/
structure Anchored (container : Element) (above l : Layer) (e : Element) : Prop where
  absolute_iff : e.position = some .absolute ↔
    l.fault = none ∧ l.bounds.isSome ∧ above.LeavesFlow l
  placed : e.position = some .absolute → container.IsPositioned ∧
    ∃ origin own, above.bounds = some origin ∧ l.bounds = some own ∧
      e.offsets = (some (round2 (own.x - origin.x)), some (round2 (own.y - origin.y)))
  flowing : e.position ≠ some .absolute → e.offsets = (none, none)

theorem bounds_of_opens {c : Config} {l : Layer} (opened : l.opens c = true) :
    ∃ b, l.bounds = some b := by
  unfold opens at opened
  simp only [Bool.and_eq_true] at opened
  exact Option.isSome_iff_exists.1 opened.1.1.2

theorem container_positioned {c : Config} {above l : Layer} (frame : Option ParentFrame)
    (opened : above.opens c = true) (child : l ∈ above.children) (leaves : above.LeavesFlow l) :
    (above.emit c frame).tree.IsPositioned := by
  have layout : (above.emit c frame).tree.style.layout = above.layoutStyle frame := by
    rw [emit_layout, (opens_iff c above).1 opened]
  unfold Element.IsPositioned Element.position
  rw [layout]
  rcases above.layoutStyle_cases frame with ⟨_, _, _, _, _, absolute, _⟩ | ⟨_, inFlow, _⟩
  · exact .inr absolute
  · rw [placesChildren_of_leaves child leaves, if_pos rfl] at inFlow
    exact .inl inFlow

theorem anchored_in_flow {container e : Element} {above l : Layer}
    (stays : ¬ (l.fault = none ∧ l.bounds.isSome ∧ above.LeavesFlow l))
    (position : e.position ≠ some .absolute) (offsets : e.offsets = (none, none)) :
    Anchored container above l e where
  absolute_iff := ⟨fun absolute => absurd absolute position, fun leaves => absurd leaves stays⟩
  placed := fun absolute => absurd absolute position
  flowing := fun _ => offsets

theorem anchored_of_layout {container e : Element} {above l : Layer} {origin : Bounds}
    (bounds : above.bounds = some origin) (sound : l.fault = none)
    (layout : e.style.layout = l.layoutStyle (ParentFrame.of? above))
    (positioned : above.LeavesFlow l → container.IsPositioned) :
    Anchored container above l e := by
  have parent : ParentFrame.of? above = some ⟨origin, above.isAutoLayout⟩ := by
    rw [ParentFrame.of?, bounds, Option.map_some]
  rcases l.layoutStyle_cases (ParentFrame.of? above) with
    ⟨p, own, framed, located, leaves, absolute, left, top⟩ | ⟨inside, inFlow, left, top⟩
  · obtain rfl := Option.some.inj (parent.symm.trans framed)
    have isAbsolute : e.position = some .absolute := by rw [Element.position, layout, absolute]
    have offsets : e.offsets = (some (round2 (own.x - origin.x)), some (round2 (own.y - origin.y))) := by
      rw [Element.offsets, layout, left, top]
    constructor
    · exact ⟨fun _ => ⟨sound, Option.isSome_of_eq_some located, leaves⟩, fun _ => isAbsolute⟩
    · exact fun _ => ⟨positioned leaves, origin, own, bounds, located, offsets⟩
    · exact fun flowing => absurd isAbsolute flowing
  · apply anchored_in_flow
    · rintro ⟨-, located, leaves⟩
      obtain ⟨own, placed⟩ := Option.isSome_iff_exists.1 located
      exact inside _ own parent placed leaves
    · rw [Element.position, layout, inFlow]
      split <;> simp
    · rw [Element.offsets, layout, left, top]

theorem emit_anchored {c : Config} {above l : Layer} (frame : Option ParentFrame)
    (shown : l ∈ above.shown c) :
    Anchored (above.emit c frame).tree above l (l.emit c (ParentFrame.of? above)).tree := by
  obtain ⟨opened, child, -⟩ := mem_shown.1 shown
  obtain ⟨origin, bounds⟩ := bounds_of_opens opened
  have layout := emit_layout c (ParentFrame.of? above) l
  split at layout
  · rename_i placeholder
    have defect : l.fault.isSome ∨ l.isText = false ∧ l.bounds = none := by
      rw [← defect?_isSome, form_placeholder_iff.1 placeholder]
      rfl
    apply anchored_in_flow
    · rintro ⟨sound, located, -⟩
      rcases defect with faulty | ⟨-, unplaced⟩
      · simp [sound] at faulty
      · simp [unplaced] at located
    · rw [Element.position, layout]
      exact nofun
    · rw [Element.offsets, layout]
  · rename_i shaped
    have sound : l.fault = none := by
      have none : l.defect? = none := defect?_eq_none rfl shaped
      cases fault : l.fault with
      | none => rfl
      | some detail => simp [defect?, fault] at none
    exact anchored_of_layout bounds sound layout (container_positioned frame opened child)

theorem root_in_flow (c : Config) (root : Layer) :
    (root.emit c none).tree.position ≠ some .absolute ∧
      (root.emit c none).tree.offsets = (none, none) := by
  have layout := emit_layout c none root
  unfold Element.position Element.offsets
  split at layout
  · simp [layout]
  · rcases root.layoutStyle_cases none with ⟨_, _, framed, _⟩ | ⟨_, inFlow, left, top⟩
    · cases framed
    · rw [layout, inFlow, left, top]
      exact ⟨by split <;> simp, rfl⟩

end Layer

/-- The root is in the flow. An element right below another one is absolute exactly if its layer leaves
the flow of the layer above; then it is placed in an element that is positioned, at the distance of the
two layers, and otherwise has no offsets. -/
theorem absolute_elements_anchored (c : Config) (root : Layer) :
    let tree := (transform c root).tree
    (∀ e ∈ tree.visit, ∃ place, tree.below? place = some e) ∧
    (tree.position ≠ some .absolute ∧ tree.offsets = (none, none)) ∧
    ∀ place container i e, tree.below? place = some container → container.children[i]? = some e →
      ∃ path j above l,
        root.below? path = some above ∧ root.place? c path = some place ∧
        above.children[j]? = some l ∧ root.place? c (path ++ [j]) = some (place ++ [i]) ∧
        Layer.Anchored container above l e := by
  refine ⟨fun e => Layer.below?_of_mem_visit, Layer.root_in_flow c root, ?_⟩
  intro place container i e found here
  obtain ⟨path, above, frame, placed, layer, rfl⟩ := Layer.layer_of_below? found
  rw [Layer.emit_children_shown, List.getElem?_map] at here
  obtain ⟨l, shown, rfl⟩ := Option.map_eq_some_iff.1 here
  obtain ⟨j, child, places⟩ := Layer.child_of_shown shown
  refine ⟨path, j, above, l, layer, placed, child, ?_, ?_⟩
  · rw [Layer.place?_append, placed, Option.bind_some, layer, Option.bind_some, places]
    rfl
  · exact Layer.emit_anchored frame (List.mem_of_getElem? shown)

def badge : Layer where
  id := "1:2"
  kind := "RECTANGLE"
  bounds := some ⟨35.0, 8.0, 10.0, 10.0⟩
  layoutPositioning := some "ABSOLUTE"

def row : Layer where
  id := "1:1"
  kind := "FRAME"
  bounds := some ⟨20.0, 10.0, 20.0, 10.0⟩
  layoutMode := some "HORIZONTAL"
  children := [{ id := "2:1", kind := "TEXT", characters := some "New" }, badge]

/-- The row is behind a layer that is not shown. -/
def pinboard : Layer where
  id := "0:1"
  kind := "FRAME"
  bounds := some ⟨10.0, 10.0, 40.0, 20.0⟩
  children := [{ id := "1:0", kind := "FRAME", visible := false }, row]

theorem pinned_badge_anchored : ∃ container e,
    (transform {} pinboard).tree.below? [0] = some container ∧ container.children[1]? = some e ∧
    e.position = some .absolute ∧ container.IsPositioned ∧
    ∃ path j above l,
      pinboard.below? path = some above ∧ pinboard.place? {} path = some [0] ∧
      above.children[j]? = some l ∧ pinboard.place? {} (path ++ [j]) = some [0, 1] ∧
      Layer.Anchored container above l e := by
  let container := (row.emit {} (ParentFrame.of? pinboard)).tree
  let e := (badge.emit {} (ParentFrame.of? row)).tree
  have found : (transform {} pinboard).tree.below? [0] = some container := rfl
  have here : container.children[1]? = some e := rfl
  have absolute : e.position = some .absolute := rfl
  obtain ⟨path, j, above, l, layer, placed, child, place, anchored⟩ :=
    (absolute_elements_anchored {} pinboard).2.2 [0] container 1 e found here
  exact ⟨container, e, found, here, absolute, (anchored.placed absolute).1,
    path, j, above, l, layer, placed, child, place, anchored⟩

end DesignMarkup
