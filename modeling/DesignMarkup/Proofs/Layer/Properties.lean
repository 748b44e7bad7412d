import DesignMarkup.Proofs.Layer.AttributeNames
import DesignMarkup.Proofs.Lists
/-!
The properties of a component as the attributes of its element. Names are brought to one form, so
several properties can have one name. Each sets its attribute in turn, and the last one counts; for a
common name that is the last text and, apart from it, the last value that is none.
-/
namespace DesignMarkup
open Markup

namespace Attributes

def held? (a : Attributes) (key : String) : (common : Bool) → Option Attribute
  | true =>
    let text : Option String :=
      if key = "className" then a.className
      else if key = "src" then a.src
      else if key = "alt" then a.alt
      else none
    text.map fun s => .data (.string s)
  | false => Dict.get? a.extra key

theorem held?_empty (key : String) (common : Bool) : empty.held? key common = none := by
  cases common with
  | true => simp [held?, empty]
  | false => rfl

theorem held?_insert (a : Attributes) (key : String) (v : Json) (other : String) (common : Bool) :
    (a.insert key (.data v)).held? other common =
      if other = key ∧ common = (Element.isCommon key && v.isString) then some (.data v)
      else a.held? other common := by
  rcases a.insert_cases key v with ⟨s, rfl, ⟨rfl, same⟩ | ⟨rfl, same⟩ | ⟨rfl, same⟩⟩ | ⟨rest, same⟩
  · rw [same]
    cases common <;> simp [held?, Element.isCommon, Json.isString]; grind
  · rw [same]
    cases common <;> simp [held?, Element.isCommon, Json.isString]; grind
  · rw [same]
    cases common <;> simp [held?, Element.isCommon, Json.isString]; grind
  · rw [same, rest]
    cases common <;> simp [held?, Dict.get?_insert, eq_comm]

end Attributes

namespace Element

theorem mem_commonShown_iff {a : Attributes} {key : String} {shown : Shown} :
    (key, shown) ∈ commonShown a none ↔
      ∃ v, a.held? key true = some v ∧ shown = outlineAttribute v := by
  obtain ⟨className, src, alt, extra⟩ := a
  cases className <;> cases src <;> cases alt <;>
    simp [commonShown, Attributes.held?, outlineAttribute, dataShown] <;> grind

theorem mem_attributes_iff {e : Element} (asset : e.asset? = none)
    (sorted : Dict.Sorted e.attributes.extra) {key : String} (name : isAttributeName key = true)
    {shown : Shown} : (key, shown) ∈ e.outline.attributes ↔
      (∃ common v, e.attributes.held? key common = some v ∧ shown = outlineAttribute v) ∨
        (key, shown) ∈ styleShown e.style := by
  have extra : (key, shown) ∈ outlineExtra e.attributes.extra ↔
      ∃ v, e.attributes.held? key false = some v ∧ shown = outlineAttribute v := by
    rw [mem_outlineExtra_iff, and_iff_right name]
    refine exists_congr fun v => and_congr_left fun _ => ?_
    exact ⟨Dict.get?_of_mem sorted, Dict.mem_of_get?⟩
  rw [outline_eq, List.mem_append, List.mem_append, asset, mem_commonShown_iff, extra, Bool.exists_bool,
    or_comm (a := ∃ v, e.attributes.held? key false = some v ∧ _)]

end Element

namespace Layer

/-- The property sets the attribute: that of a common text if it is one, or the one among the others. -/
def sets (key : String) (common : Bool) (p : String × ComponentProperty) : Bool :=
  attributeName? p.1 == some key && common == (Element.isCommon key && p.2.value.isString)

theorem sets_iff {key : String} {common : Bool} {p : String × ComponentProperty} :
    sets key common p = true ↔
      attributeName? p.1 = some key ∧ common = (Element.isCommon key && p.2.value.isString) := by
  rw [sets, Bool.and_eq_true, beq_iff_eq, beq_iff_eq]

def prevailing? (l : Layer) (key : String) (common : Bool) : Option (String × ComponentProperty) :=
  (l.componentProperties.filter (sets key common)).getLast?

theorem prevailing?_eq_some {l : Layer} {key : String} {common : Bool}
    {p : String × ComponentProperty} : l.prevailing? key common = some p ↔
      ∃ before after, l.componentProperties = before ++ p :: after ∧ sets key common p = true ∧
        ∀ q ∈ after, sets key common q = false :=
  getLast?_filter_eq_some

theorem prevailing?_isSome {l : Layer} {p : String × ComponentProperty}
    (member : p ∈ l.componentProperties) {key : String} (named : attributeName? p.1 = some key) :
    (l.prevailing? key (Element.isCommon key && p.2.value.isString)).isSome = true := by
  have own : sets key (Element.isCommon key && p.2.value.isString) p = true := sets_iff.2 ⟨named, rfl⟩
  rw [prevailing?, List.getLast?_isSome]
  exact List.ne_nil_of_mem (List.mem_filter.2 ⟨member, own⟩)

theorem held?_property (e : Element) (p : String × ComponentProperty) (key : String) (common : Bool) :
    (match attributeName? p.1 with
      | some name => e.withAttribute name (.data p.2.value)
      | none => e).attributes.held? key common =
      if sets key common p then some (.data p.2.value) else e.attributes.held? key common := by
  cases named : attributeName? p.1 with
  | none =>
    have unset : ¬ sets key common p = true := by
      rw [sets_iff, named]
      nofun
    rw [if_neg unset]
  | some name =>
    have set : sets key common p = true ↔
        key = name ∧ common = (Element.isCommon name && p.2.value.isString) := by
      rw [sets_iff, named, Option.some.injEq, eq_comm (a := name)]
      exact and_congr_right fun same => by rw [same]
    simp only [Element.withAttribute, Attributes.held?_insert, set]

theorem withProperties_held? (l : Layer) (e : Element) (key : String) (common : Bool) :
    (l.withProperties e).attributes.held? key common =
      ((l.prevailing? key common).map fun p => .data p.2.value).or (e.attributes.held? key common) := by
  unfold withProperties prevailing?
  -- By the last property: it sets the attribute, whatever those before it have done, or leaves it.
  induction l.componentProperties using List.reverseRecOn with
  | nil => rfl
  | append_singleton properties p ih =>
    rw [List.foldl_concat, List.filter_append, List.getLast?_append, List.filter_singleton]
    refine (held?_property _ p key common).trans ?_
    by_cases set : sets key common p = true
    · rw [if_pos set, set]
      rfl
    · rw [if_neg set, ih, Bool.eq_false_iff.2 set]
      rfl

theorem emitComponent_shows_iff {c : Config} (parent : Option ParentFrame) {l : Layer}
    {m : ComponentMapping} (component : l.form c = .component m) {key : String}
    (name : isAttributeName key = true) {shown : Shown} :
    (key, shown) ∈ (l.emitComponent parent m).tree.outline.attributes ↔
      (∃ common p, l.prevailing? key common = some p ∧ shown = dataShown p.2.value) ∨
        key = "style" ∧ shown = .style (l.emitComponent parent m).tree.style.printed := by
  have asset := l.emitComponent_asset? parent m
  have sorted := l.emitComponent_sorted parent m
  have style : (key, shown) ∈ styleShown (l.emitComponent parent m).tree.style ↔
      key = "style" ∧ shown = .style (l.emitComponent parent m).tree.style.printed := by
    simp [styleShown, l.emitComponent_styled parent m component]
  have held (common : Bool) : (l.emitComponent parent m).tree.attributes.held? key common =
      (l.prevailing? key common).map fun p => .data p.2.value := by
    rw [emitComponent_attributes, withProperties_held?, componentBase_attributes,
      Attributes.held?_empty, Option.or_none]
  rw [Element.mem_attributes_iff asset sorted name, style]
  simp only [held, Option.map_eq_some_iff]
  refine or_congr_left (exists_congr fun common => ?_)
  constructor
  · rintro ⟨_, ⟨p, last, rfl⟩, rfl⟩
    exact ⟨p, last, by rw [Element.outlineAttribute]⟩
  · rintro ⟨p, last, rfl⟩
    exact ⟨_, ⟨p, last, rfl⟩, by rw [Element.outlineAttribute]⟩

end Layer

/-- The element of a component stands in the markup. Under each name that can be written, it shows the
value of the last property of the name, which exists if any property has it; the texts and the other
values of a common name count apart. -/
theorem properties_reach_markup {c : Config} {root : Layer} {tree : Frozen}
    (frozen : tree.element = (transform c root).tree) (depth : Nat) {path : List Nat} {l : Layer}
    {e : Element} {m : ComponentMapping} (layer : root.below? path = some l)
    (emitted : Layer.elementOf? c root path = some e) (component : l.form c = .component m) :
    (∃ k before after, WrittenIn depth tree.element k e before after ∧
      (renderPlain depth tree).markup.toList = before ++ e.outline.print k ++ after) ∧
    ∀ key, isAttributeName key = true →
      (∀ shown, (key, shown) ∈ e.outline.attributes ↔
        (∃ common p, l.prevailing? key common = some p ∧ shown = dataShown p.2.value) ∨
          key = "style" ∧ shown = .style e.style.printed) ∧
      ∀ p ∈ l.componentProperties, attributeName? p.1 = some key →
        (l.prevailing? key (Element.isCommon key && p.2.value.isString)).isSome = true := by
  have hookless : ∀ d ∈ tree.element.visit, d.template = none := by
    rw [frozen]
    exact Layer.emit_hookless c none root
  constructor
  · obtain ⟨place, _, found⟩ := Option.bind_eq_some_iff.1 emitted
    obtain ⟨k, before, after, written⟩ := written_of_shows (Element.shows_of_below? found) depth
    rw [renderPlain_prints depth hookless, frozen]
    exact ⟨k, before, after, written, written.print⟩
  · obtain ⟨x, frame, at_, rfl⟩ := Layer.elementOf?_emits emitted
    obtain rfl := Option.some.inj (layer.symm.trans at_)
    intro key name
    constructor
    · intro shown
      rw [Layer.emit_eq, component]
      exact Layer.emitComponent_shows_iff frame component name
    · intro p member named
      exact Layer.prevailing?_isSome member named

theorem button_names :
    (attributeName? "Has icon?#3:0" = some "hasIcon" ∧ isAttributeName "hasIcon" = true) ∧
    (attributeName? "Size#1:0" = some "size" ∧ attributeName? "Size#2:0" = some "size") ∧
    isAttributeName "size" = true := by
  decide +kernel

def sizedButton : Layer :=
  buttonOf [("Has icon?#3:0", ⟨"BOOLEAN", .bool true⟩), ("Size#2:0", ⟨"TEXT", .string "large"⟩)]

theorem sized_button_shows_properties : ∃ tree : Frozen,
    tree.element = (transform buttonConfig sizedButton).tree ∧
    ("hasIcon", .flag) ∈ tree.element.outline.attributes ∧
    ("size", .string "large") ∈ tree.element.outline.attributes := by
  obtain ⟨tree, frozen⟩ := buttonOf_frozen
    [("Has icon?#3:0", ⟨"BOOLEAN", .bool true⟩), ("Size#2:0", ⟨"TEXT", .string "large"⟩)]
  have emitted : Layer.elementOf? buttonConfig sizedButton [] = some tree.element := by
    rw [frozen]
    rfl
  have shown := (properties_reach_markup frozen 0 rfl emitted (buttonOf_form _)).2
  obtain ⟨⟨iconNamed, iconName⟩, ⟨_, sizeNamed⟩, sizeName⟩ := button_names
  have icon : sizedButton.prevailing? "hasIcon" false =
      some ("Has icon?#3:0", ⟨"BOOLEAN", .bool true⟩) := by
    refine Layer.prevailing?_eq_some.2 ⟨[], _, rfl, Layer.sets_iff.2 ⟨iconNamed, rfl⟩, ?_⟩
    rw [List.forall_mem_singleton, Layer.sets, sizeNamed]
    rfl
  have size : sizedButton.prevailing? "size" false =
      some ("Size#2:0", ⟨"TEXT", .string "large"⟩) :=
    Layer.prevailing?_eq_some.2 ⟨[_], [], rfl, Layer.sets_iff.2 ⟨sizeNamed, rfl⟩, nofun⟩
  refine ⟨tree, frozen, ?_, ?_⟩
  · apply ((shown "hasIcon" iconName).1 _).2
    exact .inl ⟨false, _, icon, rfl⟩
  · apply ((shown "size" sizeName).1 _).2
    exact .inl ⟨false, _, size, rfl⟩

def resizedButton : Layer :=
  buttonOf [("Size#1:0", ⟨"TEXT", .string "small"⟩), ("Size#2:0", ⟨"TEXT", .string "large"⟩)]

theorem resized_button_loses_size :
    attributeName? "Size#1:0" = some "size" ∧ attributeName? "Size#2:0" = some "size" ∧
    ∃ tree : Frozen, tree.element = (transform buttonConfig resizedButton).tree ∧
      (renderPlain 0 tree).markup.toList = tree.element.outline.print 0 ∧
      ("size", .string "small") ∉ tree.element.outline.attributes := by
  obtain ⟨_, ⟨first, second⟩, name⟩ := button_names
  obtain ⟨tree, frozen⟩ := buttonOf_frozen
    [("Size#1:0", ⟨"TEXT", .string "small"⟩), ("Size#2:0", ⟨"TEXT", .string "large"⟩)]
  have last : resizedButton.prevailing? "size" false =
      some ("Size#2:0", ⟨"TEXT", .string "large"⟩) :=
    Layer.prevailing?_eq_some.2 ⟨[_], [], rfl, Layer.sets_iff.2 ⟨second, rfl⟩, nofun⟩
  have uncommon (p : String × ComponentProperty) :
      resizedButton.prevailing? "size" true ≠ some p := by
    intro found
    obtain ⟨_, _, _, own, _⟩ := Layer.prevailing?_eq_some.1 found
    exact absurd (Layer.sets_iff.1 own).2 (by simp [Element.isCommon])
  refine ⟨first, second, tree, frozen, renderPlain_prints _ ?_, ?_⟩
  · rw [frozen]
    exact Layer.emit_hookless _ _ _
  · rw [frozen, transform, Layer.emit_eq, buttonOf_form,
      Layer.emitComponent_shows_iff none (buttonOf_form _) name]
    rintro (⟨common, p, found, shown⟩ | ⟨style, _⟩)
    · cases common with
      | true => exact uncommon p found
      | false =>
        rw [← Option.some.inj (last.symm.trans found)] at shown
        simp [dataShown] at shown
    · exact absurd style (by decide)

end DesignMarkup
