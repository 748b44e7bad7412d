import DesignMarkup.Proofs.Layer.PaintOrder
/-!
Elements without what is below them. Such a part comes from one layer alone: from its form, its style
and its own fields. An element is this part and its children.
-/
namespace DesignMarkup

def Content.own : Content → Content
  | .children _ => .children []
  | .text value => .text value
  | .asset url => .asset url

theorem Content.eq_of_own {a b : Content} (same : a.own = b.own) (items : a.items = b.items) :
    a = b := by
  cases a <;> cases b <;> simp_all [own, Content.items]

namespace Element

def own (e : Element) : Element := { e with content := e.content.own }

theorem eq_of_own {a b : Element} (same : a.own = b.own) (children : a.children = b.children) :
    a = b := by
  have content : a.content = b.content := Content.eq_of_own (congrArg Element.content same) children
  cases a
  cases b
  simp only [own, mk.injEq] at same content ⊢
  simp only [same, content, and_self]

end Element

/-- A placeholder has no style. -/
def Form.target? : Form → Option StyleTarget
  | .placeholder _ => none
  | .text => some .text
  | .component _ => some .container
  | .asset _ => some .asset
  | .container => some .container

namespace Layer

def formStyle (l : Layer) (parent : Option ParentFrame) (f : Form) : Style :=
  (f.target?.map fun target => (l.style parent target).1).getD {}

def unstyled (l : Layer) : Form → Element
  | .placeholder _ => l.bareElement "div"
  | .text => (l.bareElement "span").withText (l.characters.getD "")
  | .component m =>
    let e := l.withProperties ((l.bareElement m.exportName).withComponent m.package m.isDefault)
    l.firstText.elim e e.withText
  | .asset url =>
    let e := (l.bareElement "img").withAsset url
    { e with attributes := { e.attributes with src := some url, alt := some l.name } }
  | .container => l.bareElement "div"

theorem withProperties_withStyle (l : Layer) (e : Element) (s : Style) :
    l.withProperties (e.withStyle s) = (l.withProperties e).withStyle s := by
  unfold withProperties
  refine List.foldl_hom (fun e : Element => e.withStyle s) fun e property => ?_
  dsimp only
  split <;> rfl

theorem bareElement_leaf (l : Layer) (tag : String) :
    (l.bareElement tag).withChildren [] = l.bareElement tag := by
  unfold bareElement
  split <;> rfl

theorem bareElement_own (l : Layer) (tag : String) :
    (l.bareElement tag).own = (l.bareElement tag).withStyle {} := by
  unfold bareElement
  split <;> rfl

theorem emitComponent_own (l : Layer) (parent : Option ParentFrame) (m : ComponentMapping) :
    (l.emitComponent parent m).tree.own =
      (l.unstyled (.component m)).withStyle (l.style parent .container).1 := by
  let bare := (l.bareElement m.exportName).withComponent m.package m.isDefault
  -- The style is set before the properties are.
  have styled : l.withProperties (l.componentBase parent m) =
      (l.withProperties bare).withStyle (l.style parent .container).1 :=
    l.withProperties_withStyle bare _
  unfold componentBase at styled
  unfold emitComponent unstyled
  dsimp only
  rw [styled]
  cases l.firstText with
  | some text => rfl
  | none =>
    obtain ⟨attributes, same⟩ := l.withProperties_attributes bare
    have leaf : (l.withProperties bare).content = .children [] := by
      rw [same]
      exact l.bareElement_content m.exportName
    change ((l.withProperties bare).withStyle _).own = (l.withProperties bare).withStyle _
    unfold Element.own Element.withStyle
    rw [leaf]
    rfl

/-- The part of an element that is its own comes from the form of the layer, the fields that are
shown in it, and the style. -/
theorem emit_own (c : Config) (parent : Option ParentFrame) (l : Layer) :
    (l.emit c parent).tree.own =
      (l.unstyled (l.form c)).withStyle (l.formStyle parent (l.form c)) := by
  rw [emit_eq]
  cases l.form c with
  | placeholder detail => exact l.bareElement_own "div"
  | text => rfl
  | component m => exact l.emitComponent_own parent m
  | asset url => rfl
  | container =>
    exact congrArg (fun e : Element => e.withStyle (l.style parent .container).1)
      (l.bareElement_leaf "div")

end Layer
end DesignMarkup
