import DesignMarkup.Proofs.Config.Mapping
import DesignMarkup.Proofs.Element.RoundTrip
import DesignMarkup.Proofs.Layer.PaintOrder
/-!
A transformed design is read back from what it is written as. Properties reserve three names for
texts; a property of such a name with another value is written where a text is expected.
-/
namespace DesignMarkup
open Json Shape

namespace Layer

/-- The properties with the name of a common attribute are texts. -/
def NamesFit (l : Layer) : Prop :=
  ∀ property ∈ l.componentProperties, ∀ key, attributeName? property.1 = some key →
    Element.isCommon key = true → ∃ s, property.2.value = .string s

structure Kept (e : Element) : Prop where
  tag : e.tag ≠ ""
  free : ∀ entry ∈ e.attributes.extra, Element.isCommon entry.1 = false
  separate : e.style.Separate

theorem style_separate (l : Layer) (parent : Option ParentFrame) (target : StyleTarget) :
    (l.style parent target).1.Separate := by
  have none : (l.style parent target).1.extra = [] := rfl
  rw [Style.Separate, none]
  nofun

theorem styledElement_kept (l : Layer) (tag : String) (nonempty : tag ≠ "")
    (parent : Option ParentFrame) (target : StyleTarget) :
    Kept (l.styledElement tag parent target) where
  tag := (l.bareElement_tag tag).trans_ne nonempty
  free := by
    rw [show (l.styledElement tag parent target).attributes = _ from l.bareElement_attributes tag]
    nofun
  separate := l.style_separate parent target

theorem emitComponent_kept {l : Layer} (parent : Option ParentFrame) {m : ComponentMapping}
    (named : m.exportName ≠ "") (fit : l.NamesFit) : Kept (l.emitComponent parent m).tree := by
  have styled := l.styledElement_kept m.exportName named parent .container
  obtain ⟨attributes, content, same, given, _⟩ := l.emitComponent_tree parent m
  rw [same]
  refine ⟨styled.tag, fun (key, value) entry => ?_, styled.separate⟩
  rw [given] at entry
  rcases mem_withProperties entry with old | ⟨property, member, named, _, other⟩
  · exact styled.free _ old
  · cases common : Element.isCommon key with
    | false => rfl
    | true => exact absurd ⟨common, fit property member key named common⟩ other

theorem emit_kept {c : Config} (checked : c.check = .ok ()) (parent : Option ParentFrame) {l : Layer}
    (fit : ∀ m, l.form c = .component m → l.NamesFit) : Kept (l.emit c parent).tree := by
  rw [emit_eq]
  cases hasForm : l.form c with
  | placeholder detail =>
    have attributes := l.bareElement_attributes "div"
    have style := l.bareElement_style "div"
    refine ⟨(l.bareElement_tag "div").trans_ne (by decide), ?_, ?_⟩
    · simp [emitPlaceholder, attributes, Attributes.empty]
    · simpa [emitPlaceholder, style] using Style.empty_keeps.2
  | text =>
    have styled := l.styledElement_kept "span" (by decide) parent .text
    exact ⟨styled.tag, styled.free, styled.separate⟩
  | component m =>
    obtain ⟨seen, sound⟩ := c.mappings_sound checked m (mapping_of_form hasForm)
    exact emitComponent_kept parent (ComponentMapping.exportName_ne_empty sound) (fit m hasForm)
  | asset url =>
    have styled := l.styledElement_kept "img" (by decide) parent .asset
    exact ⟨styled.tag, styled.free, styled.separate⟩
  | container =>
    have styled := l.styledElement_kept "div" (by decide) parent .container
    exact ⟨styled.tag, styled.free, styled.separate⟩

theorem emit_writable {c : Config} (checked : c.check = .ok ()) (parent : Option ParentFrame)
    {l : Layer} (fit : ∀ x ∈ l.emitted c, ∀ m, x.form c = .component m → x.NamesFit) :
    (l.emit c parent).tree.Writable := by
  induction l using induction_below generalizing parent with
  | step l ih =>
    rw [emitted_eq, List.forall_mem_cons] at fit
    have here := emit_kept checked parent fit.1
    refine Element.visit_forall ⟨here.tag, here.free, here.separate⟩ fun e below => ?_
    rw [emit_branches] at below
    obtain ⟨child, shown, rfl⟩ := List.mem_map.1 below
    exact ih child (mem_children_of_mem_shown shown) _ fun x emitted =>
      fit.2 x (List.mem_flatMap.2 ⟨child, shown, emitted⟩)

end Layer

/-- The transformed design is read from what it is written as, and as it was if the numbers of its
styles are finite, unless a property reserves a common name for something else than a text. -/
theorem transformed_tree_reads_back {c : Config} {root : Layer} (checked : c.check = .ok ())
    (fit : ∀ l ∈ root.emitted c, ∀ m, l.form c = .component m → l.NamesFit) :
    (∃ read, (∀ o, Element.decode o (transform c root).tree.encode = .ok read) ∧
      ((transform c root).tree.FiniteNumbers → read = (transform c root).tree)) ∧
    ∀ t, transformDocument c root = .ok t → t.tree = (transform c root).tree := by
  refine ⟨Element.decodeWithin_encode le_rfl (Layer.emit_writable checked none fit), fun t done => ?_⟩
  obtain ⟨findings, _, finished⟩ := bind_eq_ok.1 done
  cases finished
  rfl

def buttonWith (v : Json) : Layer where
  id := "1:2"
  name := "Button"
  kind := "INSTANCE"
  bounds := some ⟨0.0, 0.0, 40.0, 20.0⟩
  componentProperties := [("className", ⟨"BOOLEAN", v⟩)]

def buttonConfig : Config := { components := [⟨"Button", "ui", none, false⟩] }

theorem buttonConfig_checked : buttonConfig.check = .ok () := rfl

theorem buttonWith_emitted (v : Json) : (buttonWith v).emitted buttonConfig = [buttonWith v] := by
  rw [Layer.emitted_eq]
  rfl

theorem named_button_reads_back :
    buttonConfig.check = .ok () ∧
    (∀ l ∈ (buttonWith (.string "wide")).emitted buttonConfig, ∀ m,
      l.form buttonConfig = .component m → l.NamesFit) ∧
    ∃ read, (∀ o, Element.decode o
        (transform buttonConfig (buttonWith (.string "wide"))).tree.encode = .ok read) ∧
      ((transform buttonConfig (buttonWith (.string "wide"))).tree.FiniteNumbers →
        read = (transform buttonConfig (buttonWith (.string "wide"))).tree) := by
  have fit : ∀ l ∈ (buttonWith (.string "wide")).emitted buttonConfig, ∀ m,
      l.form buttonConfig = .component m → l.NamesFit := by
    rw [buttonWith_emitted, List.forall_mem_singleton]
    intro m _ property member key _ _
    obtain rfl := List.mem_singleton.1 member
    exact ⟨"wide", rfl⟩
  exact ⟨buttonConfig_checked, fit, (transformed_tree_reads_back buttonConfig_checked fit).1⟩

theorem switched_button_attributes :
    (transform buttonConfig (buttonWith (.bool true))).tree.attributes =
      ⟨none, none, none, [("className", .data (.bool true))]⟩ := by
  have named : attributeName? "className" = some "className" := by decide +kernel
  have component : (buttonWith (.bool true)).form buttonConfig = .component ⟨"Button", "ui", none, false⟩ := rfl
  have textless : (buttonWith (.bool true)).firstText = none := rfl
  rw [transform, Layer.emit_eq, component]
  simp only [Layer.emitComponent, textless, Layer.withProperties]
  simp only [buttonWith, List.foldl, named]
  rfl

theorem reserved_attribute_refused (element : Decoder Element) (o : Origin) (v : Json)
    (a : Attributes) :
    Element.decodeAttributes element o
      (Element.encodeAttributes ⟨none, none, none, [("className", .data v)]⟩) ≠ .ok a := by
  cases o <;> exact nofun

theorem props_written (e : Element) : ∃ entries, e.encode = .object entries ∧
    Dict.get? entries "props" = some (Element.encodeAttributes e.attributes) := by
  refine ⟨_, Element.encode_eq e, ?_⟩
  cases e.package <;> simp [ entry?, Dict.get?]

theorem decode_refuses_reserved {e : Element} {v : Json}
    (reserved : e.attributes = ⟨none, none, none, [("className", .data v)]⟩) (o : Origin)
    (read : Element) : Element.decode o e.encode ≠ .ok read := by
  intro got
  obtain ⟨n, height⟩ := Nat.exists_eq_succ_of_ne_zero e.encode.height_pos.ne'
  obtain ⟨entries, written, found⟩ := props_written e
  rw [Element.decode, height, written] at got
  obtain ⟨p, readParts, _⟩ := bind_eq_ok.1 got
  have checked := of_settle_eq_ok readParts
  unfold Element.parts at checked
  -- The eight fields behind the attributes are read after them.
  iterate 8 obtain ⟨⟨_, checked⟩, _⟩ := of_seq_check checked
  obtain ⟨-, a, checked⟩ := of_seq_check checked
  have props := of_field_check found checked
  rw [reserved] at props
  exact reserved_attribute_refused _ o v a props

theorem switched_button_refused :
    buttonConfig.check = .ok () ∧ ∀ o read,
      Element.decode o (transform buttonConfig (buttonWith (.bool true))).tree.encode ≠ .ok read :=
  ⟨buttonConfig_checked, decode_refuses_reserved switched_button_attributes⟩

end DesignMarkup
