import DesignMarkup.Proofs.Dict
import DesignMarkup.Proofs.Layer.Path
import DesignMarkup.Proofs.Layer.ReadBack
import DesignMarkup.Proofs.Layer.Soundness
import DesignMarkup.Proofs.Markup.Placement
import DesignMarkup.Proofs.Style.Background
/-!
The names under which the attributes of an element are written. They come from three places that know
nothing of each other: the common attributes, the others, and the style. A component has a name twice if
a property is called as its style is, or if properties of one common name are texts and others as well.
-/
namespace DesignMarkup
open Markup

namespace Attributes

theorem own_written : ∀ key ∈ ["style", "className", "src", "alt"], isAttributeName key = true := by
  decide +kernel

theorem common_written {key : String} (common : key ∈ ["className", "src", "alt"]) :
    isAttributeName key = true :=
  own_written key (List.mem_cons_of_mem _ common)

/-- An attribute of the name is set: as one of the common texts, or among the others. -/
def Has (a : Attributes) (key : String) : (common : Bool) → Prop
  | true => key = "className" ∧ a.className.isSome ∨ key = "src" ∧ a.src.isSome ∨
      key = "alt" ∧ a.alt.isSome
  | false => key ∈ Dict.keys a.extra

theorem not_has_empty (key : String) (common : Bool) : ¬ empty.Has key common := by
  cases common <;> simp [Has, empty, Dict.keys]

theorem Has.common {a : Attributes} {key : String} (has : a.Has key true) :
    key ∈ ["className", "src", "alt"] := by
  rcases has with ⟨rfl, _⟩ | ⟨rfl, _⟩ | ⟨rfl, _⟩ <;> simp

theorem has_insert {a : Attributes} {key : String} {v : Json} {other : String} {common : Bool} :
    (a.insert key (.data v)).Has other common ↔
      a.Has other common ∨ other = key ∧ common = (Element.isCommon key && v.isString) := by
  rcases a.insert_cases key v with ⟨s, rfl, ⟨rfl, same⟩ | ⟨rfl, same⟩ | ⟨rfl, same⟩⟩ | ⟨rest, same⟩
  · rw [same]
    cases common <;> simp [Has, Element.isCommon, Json.isString]; grind
  · rw [same]
    cases common <;> simp [Has, Element.isCommon, Json.isString]; grind
  · rw [same]
    cases common <;> simp [Has, Element.isCommon, Json.isString]; grind
  · rw [same, rest]
    cases common <;> simp [Has, Dict.mem_keys_insert_iff, or_comm]

theorem insert_sorted {a : Attributes} (sorted : Dict.Sorted a.extra) (key : String) (v : Json) :
    Dict.Sorted (a.insert key (.data v)).extra := by
  rw [a.insert_extra]
  split
  · exact sorted
  · exact sorted.insert key _

end Attributes

namespace Element

def attributeNames (e : Element) : List String := e.outline.attributes.map Prod.fst

theorem outlineExtra_names (extra : List (String × Attribute)) :
    (outlineExtra extra).map Prod.fst = (Dict.keys extra).filter isAttributeName := by
  induction extra with
  | nil => rw [outlineExtra]; rfl
  | cons entry rest ih =>
    obtain ⟨key, value⟩ := entry
    rw [outlineExtra, Dict.keys, List.map_cons, List.filter_cons]
    split
    · rw [List.map_cons, ih]
      rfl
    · exact ih

theorem attributeNames_eq (e : Element) : e.attributeNames =
    (commonShown e.attributes e.asset?).map Prod.fst ++
      (Dict.keys e.attributes.extra).filter isAttributeName ++
      if e.style.isEmpty then [] else ["style"] := by
  rw [attributeNames, outline_eq, List.map_append, List.map_append, outlineExtra_names, styleShown]
  split <;> rfl

theorem commonNames_nodup (a : Attributes) (asset : Option String) :
    ((commonShown a asset).map Prod.fst).Nodup := by
  unfold commonShown
  cases a.className <;> cases a.src.or asset <;> cases a.alt <;> simp

theorem mem_extraNames {a : Attributes} {key : String} (name : isAttributeName key = true) :
    key ∈ (Dict.keys a.extra).filter isAttributeName ↔ a.Has key false := by
  rw [List.mem_filter, and_iff_left name]
  rfl

theorem mem_styleNames {s : Style} {key : String} :
    key ∈ (if s.isEmpty then [] else ["style"]) ↔ key = "style" ∧ ¬ s.isEmpty = true := by
  split <;> simp_all

section
variable {e : Element} (sourced : (e.attributes.src.or e.asset?).isSome = e.attributes.src.isSome)
include sourced

theorem mem_commonNames {key : String} :
    key ∈ (commonShown e.attributes e.asset?).map Prod.fst ↔ e.attributes.Has key true := by
  unfold Attributes.Has
  rw [← sourced]
  unfold commonShown
  cases e.attributes.className <;> cases e.attributes.src.or e.asset? <;>
    cases e.attributes.alt <;> simp

theorem attributeNames_nodup_iff (sorted : Dict.Sorted e.attributes.extra) :
    e.attributeNames.Nodup ↔
      (∀ key, e.attributes.Has key true → ¬ e.attributes.Has key false) ∧
      (e.attributes.Has "style" false → e.style.isEmpty = true) := by
  have extraNames : ((Dict.keys e.attributes.extra).filter isAttributeName).Nodup :=
    (sorted.imp String.ne_of_lt).filter _
  have styleNames : (if e.style.isEmpty then [] else ["style"]).Nodup := by
    split <;> simp
  have styleName : isAttributeName "style" = true := Attributes.own_written _ List.mem_cons_self
  rw [attributeNames_eq, List.nodup_append, List.nodup_append, and_iff_right (commonNames_nodup ..),
    and_iff_right extraNames, and_iff_right styleNames]
  constructor
  · rintro ⟨apart, fromStyle⟩
    constructor
    · intro key common other
      have name := Attributes.common_written common.common
      exact apart key ((mem_commonNames sourced).2 common) key ((mem_extraNames name).2 other) rfl
    · intro other
      by_contra shown
      have among := (mem_extraNames styleName).2 other
      exact fromStyle "style" (List.mem_append_right _ among) "style"
        (mem_styleNames.2 ⟨rfl, shown⟩) rfl
  · rintro ⟨apart, fromStyle⟩
    constructor
    · rintro key common _ other rfl
      have common := (mem_commonNames sourced).1 common
      exact apart key common ((mem_extraNames (Attributes.common_written common.common)).1 other)
    · rintro key written _ ofStyle rfl
      obtain ⟨rfl, shown⟩ := mem_styleNames.1 ofStyle
      rcases List.mem_append.1 written with common | other
      · exact absurd ((mem_commonNames sourced).1 common).common (by decide)
      · exact shown (fromStyle ((mem_extraNames styleName).1 other))

theorem names_nodup (extra : e.attributes.extra = []) : e.attributeNames.Nodup := by
  have none (key : String) : ¬ e.attributes.Has key false := by
    rw [Attributes.Has, extra]
    exact List.not_mem_nil
  have sorted : Dict.Sorted e.attributes.extra := by
    rw [extra]
    exact List.Pairwise.nil
  rw [attributeNames_nodup_iff sourced sorted]
  exact ⟨fun key _ => none key, fun has => absurd has (none _)⟩

end

theorem bare_names_nodup {e : Element} (bare : e.attributes = .empty) (asset : e.asset? = none) :
    e.attributeNames.Nodup := by
  apply names_nodup
  · rw [asset, Option.or_none]
  · rw [bare]
    rfl

end Element

namespace Layer

/-- No property has the name of the style, and those of one common name are all texts or all others. -/
def NamesApart (l : Layer) : Prop :=
  (∀ p ∈ l.componentProperties, attributeName? p.1 ≠ some "style") ∧
  ∀ p ∈ l.componentProperties, ∀ q ∈ l.componentProperties, ∀ key, Element.isCommon key = true →
    attributeName? p.1 = some key → attributeName? q.1 = some key →
      p.2.value.isString = q.2.value.isString

theorem withProperties_has {l : Layer} {e : Element} {key : String} {common : Bool} :
    (l.withProperties e).attributes.Has key common ↔ e.attributes.Has key common ∨
      ∃ p ∈ l.componentProperties, attributeName? p.1 = some key ∧
        common = (Element.isCommon key && p.2.value.isString) := by
  unfold withProperties
  induction l.componentProperties generalizing e with
  | nil => simp
  | cons p rest ih =>
    obtain ⟨property, value⟩ := p
    rw [List.foldl_cons, ih, List.exists_mem_cons_iff]
    cases named : attributeName? property with
    | none => simp [named]
    | some name =>
      simp only [named, Element.withAttribute, Attributes.has_insert, Option.some.injEq, or_assoc,
        eq_comm (a := name)]
      refine or_congr_right (or_congr_left (and_congr_right fun same => ?_))
      rw [same]

theorem withProperties_sorted (l : Layer) {e : Element} (sorted : Dict.Sorted e.attributes.extra) :
    Dict.Sorted (l.withProperties e).attributes.extra := by
  refine List.foldlRecOn (motive := fun x : Element => Dict.Sorted x.attributes.extra)
    l.componentProperties _ sorted ?_
  intro x sorted property _
  dsimp only
  split
  · exact x.attributes.insert_sorted sorted _ _
  · exact sorted

theorem namesApart_iff {l : Layer} {e : Element} (bare : e.attributes = .empty) :
    l.NamesApart ↔
      (∀ key, (l.withProperties e).attributes.Has key true →
        ¬ (l.withProperties e).attributes.Has key false) ∧
      ¬ (l.withProperties e).attributes.Has "style" false := by
  have has (key : String) (common : Bool) : (l.withProperties e).attributes.Has key common ↔
      ∃ p ∈ l.componentProperties, attributeName? p.1 = some key ∧
        common = (Element.isCommon key && p.2.value.isString) := by
    rw [withProperties_has, bare, or_iff_right (Attributes.not_has_empty key common)]
  simp only [has]
  constructor
  · rintro ⟨unstyled, uniform⟩
    constructor
    · rintro key ⟨p, inP, named, text⟩ ⟨q, inQ, named', other⟩
      obtain ⟨common, string⟩ := Bool.and_eq_true_iff.1 text.symm
      rw [common, ← uniform p inP q inQ key common named named', string] at other
      exact nomatch other
    · rintro ⟨p, inP, named, _⟩
      exact unstyled p inP named
  · rintro ⟨apart, unstyled⟩
    constructor
    · intro p inP named
      exact unstyled ⟨p, inP, named, rfl⟩
    · intro p inP q inQ key common named named'
      have text {x y : String × ComponentProperty} (inX : x ∈ l.componentProperties)
          (inY : y ∈ l.componentProperties) (namedX : attributeName? x.1 = some key)
          (namedY : attributeName? y.1 = some key) (string : x.2.value.isString = true) :
          y.2.value.isString = true := by
        by_contra other
        have typed : true = (Element.isCommon key && x.2.value.isString) := by rw [common, string]; rfl
        have untyped : false = (Element.isCommon key && y.2.value.isString) := by
          rw [common, Bool.eq_false_iff.2 other]
          rfl
        exact apart key ⟨x, inX, namedX, typed⟩ ⟨y, inY, namedY, untyped⟩
      exact Bool.eq_iff_iff.2 ⟨text inP inQ named named', text inQ inP named' named⟩

section
variable (l : Layer) (parent : Option ParentFrame) (m : ComponentMapping)

theorem emitComponent_attributes : (l.emitComponent parent m).tree.attributes =
    (l.withProperties (l.componentBase parent m)).attributes := by
  obtain ⟨attributes, content, same, given, _⟩ := l.emitComponent_tree parent m
  rw [same]
  exact given

theorem emitComponent_sorted : Dict.Sorted (l.emitComponent parent m).tree.attributes.extra := by
  rw [emitComponent_attributes]
  apply l.withProperties_sorted
  rw [l.componentBase_attributes parent m]
  exact List.Pairwise.nil

theorem emitComponent_styled {c : Config} (component : l.form c = .component m) :
    (l.emitComponent parent m).tree.style.isEmpty = false := by
  obtain ⟨attributes, content, same, _⟩ := l.emitComponent_tree parent m
  obtain ⟨b, placed⟩ := bounds_of_component component
  rw [same]
  exact style_nonempty placed parent

end

theorem emitComponent_names_iff {c : Config} (parent : Option ParentFrame) {l : Layer}
    {m : ComponentMapping} (component : l.form c = .component m) :
    (l.emitComponent parent m).tree.attributeNames.Nodup ↔ l.NamesApart := by
  have bare := l.componentBase_attributes parent m
  rw [Element.attributeNames_nodup_iff, l.emitComponent_styled parent m component,
    emitComponent_attributes, namesApart_iff bare]
  · simp only [Bool.false_eq_true]
  · rw [emitComponent_asset?, Option.or_none]
  · exact l.emitComponent_sorted parent m

theorem emit_names_iff (c : Config) (parent : Option ParentFrame) (l : Layer) :
    (l.emit c parent).tree.attributeNames.Nodup ↔ ∀ m, l.form c = .component m → l.NamesApart := by
  rw [emit_eq]
  cases form : l.form c with
  | component m =>
    rw [emitComponent_names_iff parent form]
    constructor
    · intro apart _ _
      exact apart
    · intro apart
      exact apart m rfl
  | placeholder detail =>
    have asset : (l.bareElement "div").asset? = none := by
      rw [Element.asset?, l.bareElement_content "div"]
    have distinct : (l.emitPlaceholder detail).tree.attributeNames.Nodup :=
      Element.bare_names_nodup (l.bareElement_attributes "div") asset
    simpa using distinct
  | text =>
    have distinct : (l.emitText parent).tree.attributeNames.Nodup :=
      Element.bare_names_nodup (l.bareElement_attributes "span") rfl
    simpa using distinct
  | asset url =>
    have extra : (l.emitAsset parent url).tree.attributes.extra = [] :=
      congrArg Attributes.extra (l.bareElement_attributes "img")
    simpa using Element.names_nodup rfl extra
  | container =>
    have bare := l.bareElement_attributes "div"
    simpa using Element.bare_names_nodup (e := (l.emitContainer parent _).tree) bare rfl

theorem visit_names (c : Config) (parent : Option ParentFrame) (l : Layer) :
    ((l.emit c parent).tree.visit.map fun e => e.attributeNames.Nodup) =
      (l.emitted c).map fun l => ∀ m, l.form c = .component m → l.NamesApart := by
  rw [← List.flatMap_pure_eq_map, ← List.flatMap_pure_eq_map]
  refine visit_flatMap_emit (fun parent l => ?_) parent l
  exact congrArg (pure (f := List)) (propext (emit_names_iff c parent l))

end Layer

theorem Element.shows_of_below? {e d : Element} {path : List Nat} (found : e.below? path = some d) :
    e.Shows d := by
  induction path generalizing e with
  | nil =>
    obtain rfl := Option.some.inj found
    exact .self e
  | cons i path ih =>
    obtain ⟨child, here, below⟩ := Option.bind_eq_some_iff.1 found
    exact .ofChild (List.mem_of_getElem? here) (ih below)

/-- Every element stands in the markup with its attributes, and the names of these are distinct unless
it is a component one of whose properties takes the name of another attribute. -/
theorem attribute_names_distinct_iff {c : Config} {root : Layer} {tree : Frozen}
    (frozen : tree.element = (transform c root).tree) (depth : Nat) :
    (∀ e ∈ tree.element.visit, ∃ path l,
      root.below? path = some l ∧ Layer.elementOf? c root path = some e ∧
      (∃ k before after, WrittenIn depth tree.element k e before after ∧
        (renderPlain depth tree).markup.toList = before ++ e.outline.print k ++ after) ∧
      (e.attributeNames.Nodup ↔ ∀ m, l.form c = .component m → l.NamesApart)) ∧
    ((∀ e ∈ tree.element.visit, e.attributeNames.Nodup) ↔
      ∀ l ∈ root.emitted c, ∀ m, l.form c = .component m → l.NamesApart) := by
  have hookless : ∀ d ∈ tree.element.visit, d.template = none := by
    rw [frozen]
    exact Layer.emit_hookless c none root
  constructor
  · intro e visited
    rw [frozen] at visited
    obtain ⟨place, found⟩ := Layer.below?_of_mem_visit visited
    obtain ⟨path, l, frame, placed, layer, rfl⟩ := Layer.layer_of_below? found
    have shows := Element.shows_of_below? found
    refine ⟨path, l, layer, ?_, ?_, Layer.emit_names_iff c frame l⟩
    · rw [Layer.elementOf?, placed]
      exact found
    · obtain ⟨k, before, after, written⟩ := written_of_shows shows depth
      rw [renderPlain_prints depth hookless, frozen]
      exact ⟨k, before, after, written, written.print⟩
  · have each : ((transform c root).tree.visit.map fun e => e.attributeNames.Nodup) =
        (root.emitted c).map fun l => ∀ m, l.form c = .component m → l.NamesApart :=
      Layer.visit_names c none root
    have all : (∀ p ∈ (transform c root).tree.visit.map fun e => e.attributeNames.Nodup, p) ↔
        ∀ p ∈ (root.emitted c).map fun l => ∀ m, l.form c = .component m → l.NamesApart, p := by
      rw [each]
    rw [frozen]
    rwa [List.forall_mem_map, List.forall_mem_map] at all

def buttonOf (properties : Dict ComponentProperty) : Layer :=
  { buttonWith .null with componentProperties := properties }

theorem buttonOf_form (properties : Dict ComponentProperty) :
    (buttonOf properties).form buttonConfig = .component ⟨"Button", "ui", none, false⟩ := rfl

theorem buttonOf_emitted (properties : Dict ComponentProperty) :
    (buttonOf properties).emitted buttonConfig = [buttonOf properties] := by
  rw [Layer.emitted_eq]
  rfl

theorem buttonOf_frozen (properties : Dict ComponentProperty) : ∃ tree : Frozen,
    tree.element = (transform buttonConfig (buttonOf properties)).tree := by
  have ids : (buttonOf properties).emittedIds buttonConfig = ["1:2"] := by
    rw [Layer.emittedIds, buttonOf_emitted]
    rfl
  have distinct : ((buttonOf properties).emittedIds buttonConfig).Nodup := by
    rw [ids]
    decide
  obtain ⟨tree, _, same⟩ := (violations_of_transformed buttonConfig_checked _).2.2 distinct
  exact ⟨tree, same⟩

def labelledButton : Layer :=
  buttonOf [("Label#1:0", ⟨"TEXT", .string "Go"⟩), ("className", ⟨"TEXT", .string "wide"⟩)]

theorem labelled_button_names_distinct : ∃ tree : Frozen,
    tree.element = (transform buttonConfig labelledButton).tree ∧
    ∀ e ∈ tree.element.visit, e.attributeNames.Nodup := by
  obtain ⟨tree, frozen⟩ := buttonOf_frozen
    [("Label#1:0", ⟨"TEXT", .string "Go"⟩), ("className", ⟨"TEXT", .string "wide"⟩)]
  have unstyled : ∀ p ∈ labelledButton.componentProperties, attributeName? p.1 ≠ some "style" := by
    decide +kernel
  have texts : ∀ p ∈ labelledButton.componentProperties, p.2.value.isString = true := by
    decide
  refine ⟨tree, frozen, (attribute_names_distinct_iff frozen 0).2.2 ?_⟩
  rw [buttonOf_emitted, List.forall_mem_singleton]
  intro m _
  constructor
  · exact unstyled
  · intro p inP q inQ key _ _ _
    rw [texts p inP, texts q inQ]

/-- A property that is called as the style is, and two of one name of which one is a text. -/
def crowdedButtons : List Layer :=
  [buttonOf [("style", ⟨"TEXT", .string "bold"⟩)],
    buttonOf [("className", ⟨"BOOLEAN", .bool true⟩), ("className#1:0", ⟨"TEXT", .string "wide"⟩)]]

theorem crowded_buttons_repeat_names : buttonConfig.check = .ok () ∧
    ∀ l ∈ crowdedButtons, ∃ tree : Frozen, tree.element = (transform buttonConfig l).tree ∧
      (renderPlain 0 tree).markup.toList = tree.element.outline.print 0 ∧
      ¬ tree.element.attributeNames.Nodup := by
  have crowded : ∀ l ∈ crowdedButtons, (∃ properties, l = buttonOf properties) ∧ ¬ l.NamesApart := by
    rw [crowdedButtons, List.forall_mem_cons, List.forall_mem_singleton]
    constructor
    · refine ⟨⟨_, rfl⟩, fun apart => ?_⟩
      exact apart.1 _ List.mem_cons_self (by decide +kernel)
    · refine ⟨⟨_, rfl⟩, fun apart => ?_⟩
      have same := apart.2 _ List.mem_cons_self _ (List.mem_cons_of_mem _ List.mem_cons_self)
        "className" rfl (by decide +kernel) (by decide +kernel)
      exact nomatch same
  refine ⟨buttonConfig_checked, fun l member => ?_⟩
  obtain ⟨⟨properties, rfl⟩, taken⟩ := crowded l member
  obtain ⟨tree, frozen⟩ := buttonOf_frozen properties
  refine ⟨tree, frozen, renderPlain_prints _ ?_, fun distinct => taken ?_⟩
  · rw [frozen]
    exact Layer.emit_hookless _ _ _
  · rw [frozen] at distinct
    exact (Layer.emit_names_iff _ _ _).1 distinct _ (buttonOf_form properties)

end DesignMarkup
