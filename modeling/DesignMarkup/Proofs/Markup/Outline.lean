import DesignMarkup.Markup.Plain
import DesignMarkup.Proofs.Style.Printed
/-!
What markup shows of an element, and its text. Without hooks, a rendering is the text of the outline
of its tree (`rendering_prints`).
-/
namespace DesignMarkup.Markup
open Json

mutual

structure Outline where
  tag : String
  attributes : List (String × Shown)
  body : Body

inductive Shown where
  | flag
  | string (value : String)
  | data (value : Json)
  | node (o : Outline)
  /-- The properties with their printed values. -/
  | style (declarations : List (String × String))

inductive Body where
  | text (value : String)
  | children (items : List Outline)

end

def stringMarks : List Char := ['"', '\\', '\x7b', '\x7d', '\n']

def bracedChars (text : List Char) : List Char := '\x7b' :: text ++ ['\x7d']

def stringChars (s : String) : List Char :=
  if needsBraces stringMarks s then bracedChars (quoteChars s.toList) else '"' :: s.toList ++ ['"']

def styleChars (declarations : List (String × String)) : List Char :=
  bracedChars <| bracedChars <| ' ' :: [',', ' '].intercalate (declarations.map declarationChars) ++ [' ']

mutual

def Outline.print (depth : Nat) : Outline → List Char
  | { tag, attributes, body } =>
    '<' :: tag.toList ++ printAttributes depth attributes ++ body.print depth tag

def printAttributes (depth : Nat) : List (String × Shown) → List Char
  | [] => []
  | (key, value) :: rest => ' ' :: key.toList ++ value.print depth ++ printAttributes depth rest

def Shown.print (depth : Nat) : Shown → List Char
  | .flag => []
  | .string s => '=' :: stringChars s
  | .data v => '=' :: bracedChars v.compactChars
  | .node o => '=' :: bracedChars (o.print depth)
  | .style declarations => '=' :: styleChars declarations

def Body.print (depth : Nat) (tag : String) : Body → List Char
  | .text s => '>' :: (textContent s).toList ++ (closeTag tag).toList
  | .children [] => " />".toList
  | .children (o :: rest) =>
    '>' :: printChildren (depth + 1) (o :: rest) ++ newline depth ++ (closeTag tag).toList

def printChildren (depth : Nat) : List Outline → List Char
  | [] => []
  | o :: rest => newline depth ++ o.print depth ++ printChildren depth rest

end

def commonShown (a : Attributes) (asset : Option String) : List (String × Shown) :=
  (a.className.map fun s => ("className", .string s)).toList ++
    ((a.src.or asset).map fun s => ("src", .string s)).toList ++
    (a.alt.map fun s => ("alt", .string s)).toList

def dataShown : Json → Shown
  | .string s => .string s
  | .bool true => .flag
  | value => .data value

def styleShown (style : Style) : List (String × Shown) :=
  if style.isEmpty then [] else [("style", .style style.printed)]

end DesignMarkup.Markup

namespace DesignMarkup.Element
open Markup

mutual

def outline : Element → Outline
  | e@{ attributes, content, .. } =>
    { tag := e.tag
      attributes := commonShown e.attributes e.asset? ++ outlineAttributes attributes ++ styleShown e.style
      body := outlineContent content }

def outlineAttributes : Attributes → List (String × Shown)
  | { extra, .. } => outlineExtra extra

/-- Attributes whose names cannot be written are not shown. -/
def outlineExtra : List (String × Attribute) → List (String × Shown)
  | [] => []
  | (key, value) :: rest =>
    if isAttributeName key then (key, outlineAttribute value) :: outlineExtra rest
    else outlineExtra rest

def outlineAttribute : Attribute → Shown
  | .element e => .node (outline e)
  | .data value => dataShown value

def outlineContent : Content → Body
  | .children items => .children (outlineAll items)
  | .text value => .text value
  | .asset _ => .children []

def outlineAll : List Element → List Outline
  | [] => []
  | e :: rest => outline e :: outlineAll rest

end

theorem outline_eq (e : Element) : e.outline =
    ⟨e.tag, commonShown e.attributes e.asset? ++ outlineExtra e.attributes.extra ++ styleShown e.style,
      outlineContent e.content⟩ := by
  obtain ⟨_, _, _, _, ⟨_, _, _, _⟩, _, _, _, _, _, _⟩ := e
  rw [outline, outlineAttributes]

theorem outlineAll_eq (items : List Element) : outlineAll items = items.map outline := by
  induction items with
  | nil => rw [outlineAll, List.map_nil]
  | cons e rest ih => rw [outlineAll, ih, List.map_cons]

theorem mem_outlineExtra_iff {extra : List (String × Attribute)} {key : String} {shown : Shown} :
    (key, shown) ∈ outlineExtra extra ↔
      isAttributeName key = true ∧ ∃ v, (key, v) ∈ extra ∧ shown = outlineAttribute v := by
  induction extra with
  | nil => simp [outlineExtra]
  | cons entry rest ih =>
    obtain ⟨name, value⟩ := entry
    rw [outlineExtra]
    split
    · rw [List.mem_cons, ih]
      grind
    · rw [ih]
      grind

section
variable {P : String × Shown → Prop}

theorem forall_outlineExtra {extra : List (String × Attribute)}
    (element : ∀ key c, isAttributeName key = true → (key, .element c) ∈ extra →
      P (key, .node c.outline))
    (data : ∀ key value, isAttributeName key = true → (key, .data value) ∈ extra →
      P (key, dataShown value)) : ∀ a ∈ outlineExtra extra, P a := by
  induction extra with
  | nil => simp [outlineExtra]
  | cons entry rest ih =>
    obtain ⟨key, value⟩ := entry
    have tail := ih (fun key c name member => element key c name (List.mem_cons_of_mem _ member))
      fun key v name member => data key v name (List.mem_cons_of_mem _ member)
    rw [outlineExtra]
    split
    · rename_i name
      refine List.forall_mem_cons.2 ⟨?_, tail⟩
      cases value with
      | element c =>
        rw [outlineAttribute]
        exact element key c name List.mem_cons_self
      | data v =>
        rw [outlineAttribute]
        exact data key v name List.mem_cons_self
    · exact tail

theorem forall_outline_attributes (e : Element)
    (string : ∀ key s, isAttributeName key = true → P (key, .string s))
    (element : ∀ key c, isAttributeName key = true → (key, .element c) ∈ e.attributes.extra →
      P (key, .node c.outline))
    (data : ∀ key value, isAttributeName key = true → (key, .data value) ∈ e.attributes.extra →
      P (key, dataShown value))
    (style : P ("style", .style e.style.printed)) : ∀ a ∈ e.outline.attributes, P a := by
  have one {key : String} (name : isAttributeName key = true) (value : Option String) :
      ∀ a ∈ (value.map fun s => (key, Shown.string s)).toList, P a := by
    cases value with
    | none => exact nofun
    | some s => exact List.forall_mem_singleton.2 (string key s name)
  have common : ∀ a ∈ commonShown e.attributes e.asset?, P a :=
    List.forall_mem_append.2 ⟨List.forall_mem_append.2
      ⟨one (by decide) _, one (by decide) _⟩, one (by decide) _⟩
  have styled : ∀ a ∈ styleShown e.style, P a := by
    unfold styleShown
    split
    · exact nofun
    · exact List.forall_mem_singleton.2 style
  rw [outline_eq]
  exact List.forall_mem_append.2
    ⟨List.forall_mem_append.2 ⟨common, forall_outlineExtra element data⟩, styled⟩

end

end DesignMarkup.Element

namespace DesignMarkup.Markup
open Json

def printAttribute (depth : Nat) (a : String × Shown) : List Char :=
  ' ' :: a.1.toList ++ a.2.print depth

theorem printAttributes_eq (depth : Nat) (attributes : List (String × Shown)) :
    printAttributes depth attributes = attributes.flatMap (printAttribute depth) := by
  induction attributes with
  | nil => rw [printAttributes, List.flatMap_nil]
  | cons a rest ih => rw [printAttributes, ih, List.flatMap_cons, printAttribute]

theorem printChildren_eq (depth : Nat) (items : List Outline) :
    printChildren depth items = items.flatMap fun o => newline depth ++ o.print depth := by
  induction items with
  | nil => rw [printChildren, List.flatMap_nil]
  | cons o rest ih => rw [printChildren, ih, List.flatMap_cons]

def attributeChars (text : String) : List Char := ' ' :: text.toList

theorem braced_toList (text : String) : (braced text).toList = bracedChars text.toList := by
  simp [braced, bracedChars]

theorem stringAttribute_toList (key value : String) :
    (stringAttribute key value).toList = key.toList ++ '=' :: stringChars value := by
  unfold stringAttribute stringChars stringMarks
  split
  · simp [braced_toList, quote]
  · simp

theorem stringAttribute_print (depth : Nat) (key value : String) :
    attributeChars (stringAttribute key value) = printAttribute depth (key, .string value) := by
  rw [attributeChars, printAttribute, Shown.print, stringAttribute_toList]
  rfl

theorem dataAttribute_print (depth : Nat) (key : String) (value : Json) :
    attributeChars (dataAttribute key value) = printAttribute depth (key, dataShown value) := by
  have written (value : Json) : attributeChars (key ++ "=" ++ braced value.compact) =
      printAttribute depth (key, .data value) := by
    simp [attributeChars, printAttribute, Shown.print, braced_toList, compact]
  cases value with
  | string s => exact stringAttribute_print depth key s
  | bool b =>
    cases b with
    | true => simp [dataAttribute, dataShown, attributeChars, printAttribute, Shown.print]
    | false => exact written _
  | null | int | float | array | object => exact written _

theorem styleAttribute_print (depth : Nat) (style : Style) :
    style.inlineAttribute?.toList.map attributeChars = (styleShown style).map (printAttribute depth) := by
  have texts : [',', ' '].intercalate ((style.declarations.map declarationText).map String.toList) =
      [',', ' '].intercalate (style.printed.map declarationChars) := by
    rw [Style.printed, List.map_map, List.map_map]
    congr 2
    funext entry
    simp [declarationText, declarationChars]
  unfold Style.inlineAttribute? styleShown
  split
  · rfl
  · simp [attributeChars, printAttribute, Shown.print, styleChars, bracedChars,
      String.toList_intercalate, ← texts]

theorem commonAttributes_print (depth : Nat) (a : Attributes) (asset : Option String) :
    (commonAttributes a asset).map attributeChars =
      (commonShown a asset).map (printAttribute depth) := by
  have one (key : String) (value : Option String) :
      (value.map (stringAttribute key)).toList.map attributeChars =
        (value.map fun s => (key, Shown.string s)).toList.map (printAttribute depth) := by
    cases value with
    | none => rfl
    | some s => simp [stringAttribute_print depth]
  simp only [commonAttributes, commonShown, List.map_append, one]

theorem openTag_print (tag : String) (texts : List String) :
    (openTag tag texts).toList = '<' :: tag.toList ++ texts.flatMap attributeChars := by
  have join : (String.join (texts.map (" " ++ ·))).toList = texts.flatMap attributeChars := by
    rw [String.toList_join, List.flatMap_map]
    congr 1
    funext text
    simp [attributeChars]
  simp [openTag, join]

theorem childLines_print (depth : Nat) (texts : List String) :
    (childLines depth texts).toList =
      (texts.map String.toList).flatMap (newline (depth + 1) ++ ·) := by
  rw [childLines, String.toList_join, List.flatMap_map, List.flatMap_map]
  congr 1
  funext text
  simp [newline, indent]

section
variable {shown : Nat → View → String → Prop}
  (prints : ∀ d v text, shown d v text → text.toList = v.element.outline.print d)
include prints

theorem extraTexts_print {depth : Nat} {place : Option Nat} {extra : List (String × Attribute)}
    {texts : List String} (h : ExtraTexts shown depth place extra texts) :
    texts.map attributeChars = (Element.outlineExtra extra).map (printAttribute depth) := by
  induction h with
  | nil => rw [Element.outlineExtra]; rfl
  | skip name tail ih => rw [Element.outlineExtra, ih]; simp [name]
  | @cons place key value rest text texts name first tail ih =>
    have own : attributeChars text = printAttribute depth (key, Element.outlineAttribute value) := by
      cases value with
      | element e =>
        obtain ⟨inner, written, rfl⟩ := first
        simp [Element.outlineAttribute, attributeChars, printAttribute, Shown.print, braced_toList,
          prints _ _ _ written]
      | data v =>
        rw [first, Element.outlineAttribute]
        exact dataAttribute_print depth key v
    rw [Element.outlineExtra, if_pos name, List.map_cons, List.map_cons, own, ih]

theorem childTexts_print {depth : Nat} {place : Option Nat} {items : List Element}
    {texts : List String} (h : ChildTexts shown depth place items texts) :
    texts.map String.toList = (Element.outlineAll items).map (Outline.print depth) := by
  induction h with
  | nil => rw [Element.outlineAll]; rfl
  | cons first tail ih =>
    rw [Element.outlineAll, List.map_cons, List.map_cons, ih, prints _ _ _ first]

theorem formText_print {depth : Nat} {v : View} {text : String} (h : FormText shown depth v text) :
    text.toList = v.element.outline.print depth := by
  obtain ⟨extra, children, extraTexts, childTexts, rfl⟩ := h
  obtain ⟨e, place⟩ := v
  have head : (openTag e.tag (commonAttributes e.attributes e.asset? ++ extra ++
      e.style.inlineAttribute?.toList)).toList =
      '<' :: e.tag.toList ++ printAttributes depth e.outline.attributes := by
    rw [openTag_print, printAttributes_eq, Element.outline_eq]
    simp only [List.flatMap_def, List.map_append, commonAttributes_print depth,
      extraTexts_print prints extraTexts, styleAttribute_print depth]
  have printed : e.outline.print depth = '<' :: e.tag.toList ++
      printAttributes depth e.outline.attributes ++ (Element.outlineContent e.content).print depth e.tag := by
    rw [Element.outline_eq, Outline.print]
  rw [assemble, printed, ← head]
  cases content : e.content with
  | text s => simp [Element.outlineContent, Body.print]
  | asset url => simp [Element.outlineContent, Body.print]
  | children items =>
    replace childTexts : children.map String.toList =
        (Element.outlineAll items).map (Outline.print (depth + 1)) := by
      have below := childTexts_print prints childTexts
      rwa [content, Content.items] at below
    cases items with
    | nil => simp [Element.outlineContent, Element.outlineAll, Body.print]
    | cons first rest =>
      simp only [String.toList_append, childLines_print, childTexts]
      simp [Element.outlineContent, Element.outlineAll, Body.print, printChildren, printChildren_eq,
        newline, indent, List.flatMap_map]

end

/-- Without hooks, a rendering is the text of what markup shows of the tree. -/
theorem rendering_prints {Memory : Type} [Inhabited Memory] (registry : Registry Memory)
    (nesting depth : Nat) (tree : Frozen) (memory : Memory)
    (hookless : ∀ d ∈ tree.element.visit, d.template = none) :
    ∃ r, renderAt? registry nesting depth tree memory = some r ∧
      r.markup.toList = tree.element.outline.print depth := by
  let shown (depth : Nat) (v : View) (text : String) : Prop :=
    text.toList = v.element.outline.print depth
  let anySession (_ : Session Memory) : Prop := True
  have node : ∀ depth v, v.element.template = none →
      Returns anySession (renderDefault (overrideWithin registry nesting) depth v)
        (FormText shown depth v) →
      Returns anySession (render (overrideWithin registry nesting) depth v.place v.element)
        (shown depth v) := by
    intro depth v noHook rest
    have passed : Returns anySession (overrideWithin registry nesting v) (· = none) := by
      intro s _
      refine ⟨none, s, ?_, rfl, trivial⟩
      cases nesting <;> simp [overrideWithin, overrideBy, noHook]
    refine render_node (returns_logic anySession) passed rest (fun _ gave => nomatch gave) ?_
    exact fun text _ form s _ => ⟨text, _, rfl, formText_print (fun _ _ _ => id) form, trivial⟩
  have covered : Covered (·.element.template = none) (some 0) tree.element.visit :=
    fun i e found => hookless e (List.mem_of_getElem? found)
  obtain ⟨markup, session, ran, printed, _⟩ :=
    render_shown (returns_logic anySession) node depth (some 0) tree.element covered { memory } trivial
  refine ⟨⟨markup, session.findings, session.runs⟩, ?_, printed⟩
  simp only [renderAt?, rendering, ran]

theorem renderPlain_prints (depth : Nat) {tree : Frozen}
    (hookless : ∀ d ∈ tree.element.visit, d.template = none) :
    (renderPlain depth tree).markup.toList = tree.element.outline.print depth := by
  obtain ⟨r, ran, printed⟩ := rendering_prints ([] : Registry) 0 depth tree () hookless
  rw [renderPlain, Option.get_of_eq_some _ ran, printed]

end DesignMarkup.Markup
