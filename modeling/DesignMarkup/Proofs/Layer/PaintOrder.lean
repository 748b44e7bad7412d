import DesignMarkup.Proofs.Element.Visit
import DesignMarkup.Proofs.Layer.Emission
import Mathlib.Data.List.Forall2
/-!
The elements of a transformed design stand for its layers: one for each layer that is emitted, nested
and ordered as these are.
-/
namespace DesignMarkup

structure Caption where
  name : String
  kind : String
  id : Option String
deriving DecidableEq, Repr

def Element.caption (e : Element) : Caption := ⟨e.name, e.kind, e.id⟩

namespace Layer

def caption (l : Layer) : Caption := ⟨l.name, l.kind, if l.id = "" then none else some l.id⟩

/-- The layers below are emitted on their own: the layer could be read and placed, and is neither
text nor a mapped instance nor an asset. -/
def opens (c : Config) (l : Layer) : Bool :=
  l.fault.isNone && !l.isText && l.bounds.isSome && (l.instanceOf?.bind c.mapping?).isNone &&
    l.assetUrl?.isNone

def shown (c : Config) (l : Layer) : List Layer :=
  if l.opens c then l.children.filter c.keeps else []

mutual

def emitted (c : Config) : Layer → List Layer
  | l@{ children, .. } => l :: if l.opens c then emittedOf c children else []

def emittedOf (c : Config) : List Layer → List Layer
  | [] => []
  | l :: rest => if c.keeps l then emitted c l ++ emittedOf c rest else emittedOf c rest

end

/-- The element stands for the layer, and what is right below it for the layers that are shown
there, one for one and in order. -/
inductive Depicts (c : Config) : Element → Layer → Prop where
  | intro {e : Element} {l : Layer} (caption : e.caption = l.caption)
    (below : List.Forall₂ (Depicts c) e.branches (l.shown c)) : Depicts c e l

theorem opens_iff (c : Config) (l : Layer) : l.opens c = true ↔ l.form c = .container := by
  unfold opens form
  cases l.fault with
  | some => simp
  | none =>
    by_cases text : l.isText
    · simp [text]
    · cases l.bounds <;> cases l.instanceOf?.bind c.mapping? <;> cases l.assetUrl? <;> simp [text]

theorem emittedOf_eq (c : Config) (layers : List Layer) :
    emittedOf c layers = (layers.filter c.keeps).flatMap (emitted c) := by
  induction layers with
  | nil => rw [emittedOf]; rfl
  | cons l rest ih =>
    rw [emittedOf]
    by_cases kept : c.keeps l <;> simp [kept, ih]

theorem emitted_eq (c : Config) (l : Layer) :
    l.emitted c = l :: (l.shown c).flatMap (emitted c) := by
  cases l
  rw [emitted, shown]
  split
  · rw [emittedOf_eq]
  · rfl

section
variable (l : Layer) (tag : String)

theorem bareElement_caption : (l.bareElement tag).caption = l.caption := by
  unfold bareElement caption
  split <;> rfl

theorem bareElement_tag : (l.bareElement tag).tag = tag := by
  unfold bareElement
  split <;> rfl

theorem bareElement_attributes : (l.bareElement tag).attributes = .empty := by
  unfold bareElement
  split <;> rfl

theorem bareElement_content : (l.bareElement tag).content = .children [] := by
  unfold bareElement
  split <;> rfl

theorem bareElement_style : (l.bareElement tag).style = {} := by
  unfold bareElement
  split <;> rfl

end

section component
variable (l : Layer) (parent : Option ParentFrame) (m : ComponentMapping)

def componentBase : Element :=
  (l.styledElement m.exportName parent .container).withComponent m.package m.isDefault

theorem componentBase_attributes : (l.componentBase parent m).attributes = .empty :=
  l.bareElement_attributes m.exportName

theorem emitComponent_tree : ∃ attributes content,
    (l.emitComponent parent m).tree = { l.componentBase parent m with attributes, content } ∧
    attributes = (l.withProperties (l.componentBase parent m)).attributes ∧
    (content = .children [] ∨ ∃ text, content = .text text) := by
  obtain ⟨attributes, same⟩ := withProperties_attributes l (l.componentBase parent m)
  have empty : (l.componentBase parent m).content = .children [] :=
    l.bareElement_content m.exportName
  rw [same]
  cases found : l.firstText with
  | some text =>
    refine ⟨attributes, .text text, ?_, rfl, .inr ⟨text, rfl⟩⟩
    simp only [emitComponent, found]
    exact congrArg (Element.withText · text) same
  | none =>
    refine ⟨attributes, .children [], ?_, rfl, .inl rfl⟩
    simp only [emitComponent, found]
    rw [← empty]
    exact same

theorem emitComponent_asset? : (l.emitComponent parent m).tree.asset? = none := by
  obtain ⟨attributes, content, same, _, shown⟩ := l.emitComponent_tree parent m
  rw [same]
  rcases shown with rfl | ⟨text, rfl⟩ <;> rfl

end component

theorem withProperties_elements {l : Layer} {e : Element} (none : e.attributes.extra = []) :
    (l.withProperties e).attributes.elements = [] := by
  refine List.filterMap_eq_nil_iff.2 fun (key, value) entry => ?_
  rcases mem_withProperties entry with old | ⟨property, _, _, rfl, _⟩
  · simp [none] at old
  · rfl

theorem emit_caption (c : Config) (parent : Option ParentFrame) (l : Layer) :
    (l.emit c parent).tree.caption = l.caption := by
  rw [emit_eq]
  cases l.form c with
  | placeholder detail => exact bareElement_caption l "div"
  | text => exact bareElement_caption l "span"
  | component m =>
    obtain ⟨attributes, content, same, _⟩ := l.emitComponent_tree parent m
    rw [same]
    exact bareElement_caption l m.exportName
  | asset url => exact bareElement_caption l "img"
  | container => exact bareElement_caption l "div"

theorem branches_eq_nil {e : Element} (data : e.attributes.elements = [])
    (leaf : e.content.items = []) : e.branches = [] := by
  rw [Element.branches, data, Element.children, leaf]
  rfl

theorem emitComponent_branches (l : Layer) (parent : Option ParentFrame) (m : ComponentMapping) :
    (l.emitComponent parent m).tree.branches = [] := by
  obtain ⟨attributes, content, same, given, shown⟩ := l.emitComponent_tree parent m
  have data : attributes.elements = [] := by
    rw [given]
    apply withProperties_elements
    rw [componentBase_attributes]
    rfl
  have leaf : content.items = [] := by
    rcases shown with rfl | ⟨text, rfl⟩ <;> rfl
  rw [same]
  exact branches_eq_nil data leaf

theorem emit_branches (c : Config) (parent : Option ParentFrame) (l : Layer) :
    (l.emit c parent).tree.branches =
      (l.shown c).map fun child => (child.emit c (ParentFrame.of? l)).tree := by
  have noElements (tag : String) : (l.bareElement tag).attributes.elements = [] := by
    rw [bareElement_attributes]
    rfl
  rw [emit_eq, shown]
  by_cases opened : l.opens c = true
  · rw [(opens_iff c l).1 opened, if_pos opened]
    have children := noElements "div"
    simp [emitContainer, styledElement, Element.withChildren, Element.withStyle, Element.branches,
      Element.children, Content.items, children]
  · rw [if_neg opened, List.map_nil]
    cases hasForm : l.form c with
    | placeholder detail =>
      refine branches_eq_nil (noElements "div") ?_
      rw [show (l.emitPlaceholder detail).tree.content = _ from bareElement_content l "div"]
      rfl
    | text => exact branches_eq_nil (noElements "span") rfl
    | component m => exact emitComponent_branches l parent m
    | asset url => exact branches_eq_nil (noElements "img") rfl
    | container => exact absurd ((opens_iff c l).2 hasForm) opened

theorem mem_children_of_mem_shown {c : Config} {l child : Layer} (h : child ∈ l.shown c) :
    child ∈ l.children := by
  unfold shown at h
  split at h
  · exact (List.mem_filter.1 h).1
  · simp at h

theorem emit_depicts (c : Config) (parent : Option ParentFrame) (l : Layer) :
    Depicts c (l.emit c parent).tree l := by
  induction l using induction_below generalizing parent with
  | step l ih =>
    refine .intro (emit_caption c parent l) ?_
    rw [emit_branches, List.forall₂_map_left_iff, List.forall₂_same]
    exact fun child shown => ih child (mem_children_of_mem_shown shown) _

theorem captions_of_forall₂ {c : Config} {es : List Element} {layers : List Layer}
    (depicted : List.Forall₂ (Depicts c) es layers)
    (each : ∀ l ∈ layers, ∀ e, Depicts c e l →
      e.visit.map Element.caption = (l.emitted c).map caption) :
    (es.flatMap Element.visit).map Element.caption =
      (layers.flatMap (emitted c)).map caption := by
  induction depicted with
  | nil => rfl
  | @cons e l es layers first _ ih =>
    have here := each l (by simp) e first
    have later := ih fun l member => each l (by simp [member])
    rw [List.flatMap_cons, List.flatMap_cons, List.map_append, List.map_append, here, later]

/-- In pre-order, an element that depicts a layer and all below it are the emitted layers. -/
theorem Depicts.captions {c : Config} {e : Element} {l : Layer} (depicts : Depicts c e l) :
    e.visit.map Element.caption = (l.emitted c).map caption := by
  induction l using induction_below generalizing e with
  | step l ih =>
    obtain ⟨same, below⟩ := depicts
    have rest := captions_of_forall₂ below fun child shown e depicts =>
      ih child (mem_children_of_mem_shown shown) depicts
    rw [Element.visit_eq, Element.descendants_eq, emitted_eq, List.map_cons, List.map_cons, same,
      rest]

end Layer

/-- Each emitted layer has one element: these are nested as the layers are and come in their order,
and a run side by side gives the same as a run in order. -/
theorem layers_keep_paint_order (c : Config) (root : Layer) :
    Layer.Depicts c (transform c root).tree root ∧
      (transform c root).tree.visit.map Element.caption =
        (root.emitted c).map Layer.caption ∧
      ∀ parallel, transform { c with parallel } root = transform c root := by
  have depicts : Layer.Depicts c (transform c root).tree root := Layer.emit_depicts c none root
  refine ⟨depicts, depicts.captions, fun parallel => ?_⟩
  simp only [transform, Layer.emit_parallel]

end DesignMarkup
