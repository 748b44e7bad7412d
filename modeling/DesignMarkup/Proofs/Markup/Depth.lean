import DesignMarkup.Proofs.Markup.UniqueReading
import DesignMarkup.Proofs.Text.Lines
/-!
Depth moves lines to the right and does nothing else. The lines of markup are those of children and of the
closing tags behind them; whatever an element holds is written on one line.
-/
namespace DesignMarkup
open Text Json

namespace Json

theorem escapedChar_oneLine (c : Char) : OneLine (escapedChar c) := by
  by_cases member : c ∈ escaped
  · have each : escaped.all (fun c => !(escapedChar c).contains '\n') = true := by decide +kernel
    have own := List.all_eq_true.1 each c member
    simpa [OneLine] using own
  · rw [escapedChar_plain member]
    refine .cons ?_ List.not_mem_nil
    rintro rfl
    exact member (by decide)

theorem quoteChars_oneLine (text : List Char) : OneLine (quoteChars text) :=
  .cons (by decide) ((oneLine_flatMap fun c _ => escapedChar_oneLine c).append (by decide))

theorem Token.oneLine {text : List Char} (token : Token text) : OneLine text :=
  oneLine_of_all token.chars (by decide)

mutual

theorem compact_oneLine : ∀ j : Json, OneLine j.compactChars
  | .null => (scalar_token rfl).oneLine
  | .bool _ => (scalar_token rfl).oneLine
  | .int _ => (scalar_token rfl).oneLine
  | .float _ => (scalar_token rfl).oneLine
  | .string text => quoteChars_oneLine text.toList
  | .array items => by
    rw [compactChars]
    exact .cons (by decide) ((items_oneLine items).append (by decide))
  | .object entries => by
    rw [compactChars]
    exact .cons (by decide) ((entries_oneLine entries).append (by decide))

theorem items_oneLine : ∀ items : List Json, OneLine (compactItems items)
  | [] => List.not_mem_nil
  | [v] => compact_oneLine v
  | v :: w :: rest => (compact_oneLine v).append (.cons (by decide) (items_oneLine (w :: rest)))

theorem entries_oneLine : ∀ entries : List (String × Json), OneLine (compactEntries entries)
  | [] => List.not_mem_nil
  | [(k, v)] => (quoteChars_oneLine k.toList).append (.cons (by decide) (compact_oneLine v))
  | (k, v) :: w :: rest =>
    ((quoteChars_oneLine k.toList).append (.cons (by decide) (compact_oneLine v))).append
      (.cons (by decide) (entries_oneLine (w :: rest)))

end

end Json

theorem objectKey_oneLine (key : String) : OneLine (objectKey key).toList := by
  by_cases plain : isPlainKey key = true
  · rw [objectKey_plain plain]
    exact oneLine_of_all (isKeyChar_of_plain plain) (by decide)
  · rw [objectKey_quoted plain]
    exact quoteChars_oneLine _

theorem styleValue_oneLine (key : String) (value : Json) : OneLine (styleValue key value).toList := by
  have quoted (text : String) : OneLine (quote text).toList := by
    rw [quote, String.toList_ofList]
    exact quoteChars_oneLine _
  unfold styleValue
  split
  · split
    · exact quoted _
    · exact (Decimal.measureText_token _).oneLine
  · exact quoted _
  · rw [compact, String.toList_ofList]
    exact compact_oneLine _

theorem Style.printed_oneLine (s : Style) : ∀ d ∈ s.printed, OneLine (declarationChars d) := by
  intro d member
  obtain ⟨⟨key, value⟩, -, rfl⟩ := List.mem_map.1 member
  exact (objectKey_oneLine key).append
    (.cons (by decide) (.cons (by decide) (styleValue_oneLine key value)))

namespace Markup

theorem needsBraces_line {marks : List Char} (isMark : '\n' ∈ marks) {text : String}
    (bare : needsBraces marks text ≠ true) : OneLine text.toList :=
  oneLine_of_all (not_mem_of_bare bare isMark) (by decide)

theorem bracedChars_oneLine {text : List Char} (line : OneLine text) : OneLine (bracedChars text) :=
  .cons (by decide) (line.append (by decide))

theorem stringChars_oneLine (s : String) : OneLine (stringChars s) := by
  unfold stringChars
  split
  · exact bracedChars_oneLine (quoteChars_oneLine _)
  · rename_i bare
    exact .cons (by decide) ((needsBraces_line (by decide) bare).append (by decide))

theorem textContent_oneLine (s : String) : OneLine (textContent s).toList := by
  by_cases braces : needsBraces textMarks s = true
  · rw [textContent_braced braces]
    exact bracedChars_oneLine (quoteChars_oneLine _)
  · rw [textContent_bare braces]
    exact needsBraces_line (by decide) braces

theorem closeTag_oneLine {tag : String} (line : OneLine tag.toList) : OneLine (closeTag tag).toList := by
  rw [closeTag_toList]
  exact .cons (by decide) (.cons (by decide) (line.append (by decide)))

theorem attributeName_oneLine {key : String} (name : isAttributeName key = true) :
    OneLine key.toList := by
  obtain ⟨_, _, _, _, parts⟩ := name_begins name
  exact oneLine_of_all parts (by decide)

mutual

def Outline.lineBreaks : Outline → Nat
  | { attributes, body, .. } => lineBreaksOf attributes + body.lineBreaks

def lineBreaksOf : List (String × Shown) → Nat
  | [] => 0
  | (_, value) :: rest => value.lineBreaks + lineBreaksOf rest

def Shown.lineBreaks : Shown → Nat
  | .node o => o.lineBreaks
  | .flag | .string _ | .data _ | .style _ => 0

/-- The closing tag behind children has a line of its own. -/
def Body.lineBreaks : Body → Nat
  | .text _ => 0
  | .children [] => 0
  | .children (o :: rest) => childLineBreaks (o :: rest) + 1

def childLineBreaks : List Outline → Nat
  | [] => 0
  | o :: rest => o.lineBreaks + 1 + childLineBreaks rest

end

theorem lineBreaksOf_eq (attributes : List (String × Shown)) :
    lineBreaksOf attributes = (attributes.map fun a => a.2.lineBreaks).sum := by
  induction attributes with
  | nil => rw [lineBreaksOf]; rfl
  | cons a rest ih => rw [lineBreaksOf, ih, List.map_cons, List.sum_cons]

theorem childLineBreaks_eq (items : List Outline) :
    childLineBreaks items = (items.map fun o => o.lineBreaks + 1).sum := by
  induction items with
  | nil => rw [childLineBreaks]; rfl
  | cons o rest ih => rw [childLineBreaks, ih, List.map_cons, List.sum_cons]

abbrev Outline.Shifts (o : Outline) : Prop := Text.Shifts (fun depth => o.print depth) o.lineBreaks

/-- An attribute breaks lines only in the element that it holds, if it holds one. -/
structure ShiftsAttribute (a : String × Shown) : Prop where
  name : OneLine a.1.toList
  value : Shifts (fun depth => a.2.print depth) a.2.lineBreaks

theorem string_shifts (s : String) :
    Shifts (fun depth => (Shown.string s).print depth) (Shown.string s).lineBreaks :=
  .oneLine (.cons (by decide) (stringChars_oneLine s))

theorem dataShown_shifts (value : Json) :
    Shifts (fun depth => (dataShown value).print depth) (dataShown value).lineBreaks := by
  have written (value : Json) : Shifts (fun depth => (Shown.data value).print depth)
      (Shown.data value).lineBreaks :=
    .oneLine (.cons (by decide) (bracedChars_oneLine (compact_oneLine value)))
  cases value with
  | string s => exact string_shifts s
  | bool b =>
    cases b with
    | true => exact .oneLine List.not_mem_nil
    | false => exact written _
  | null | int | float | array | object => exact written _

theorem node_shifts {o : Outline} (inside : o.Shifts) :
    Shifts (fun depth => (Shown.node o).print depth) (Shown.node o).lineBreaks := by
  have opening : OneLine ['=', '\x7b'] := by decide
  have closing : OneLine ['\x7d'] := by decide
  simpa [Shown.print, bracedChars, Shown.lineBreaks] using
    ((Shifts.oneLine opening).append inside).append (.oneLine closing)

theorem style_shifts (style : Style) :
    Shifts (fun depth => (Shown.style style.printed).print depth) (Shown.style style.printed).lineBreaks := by
  have declarations : OneLine ([',', ' '].intercalate (style.printed.map declarationChars)) := by
    refine OneLine.intercalate (by decide) ?_
    rw [List.forall_mem_map]
    exact style.printed_oneLine
  exact .oneLine (.cons (by decide) <| bracedChars_oneLine <| bracedChars_oneLine <|
    .cons (by decide) (declarations.append (by decide)))

theorem attributes_shift {attributes : List (String × Shown)}
    (each : ∀ a ∈ attributes, ShiftsAttribute a) :
    Shifts (fun depth => printAttributes depth attributes) (lineBreaksOf attributes) := by
  simp only [printAttributes_eq, lineBreaksOf_eq]
  refine Shifts.flatMap fun a member => ?_
  have shifts := each a member
  simpa [printAttribute] using
    (Shifts.oneLine (OneLine.cons (by decide : ' ' ≠ '\n') shifts.name)).append shifts.value

theorem children_shift {items : List Outline} (each : ∀ o ∈ items, o.Shifts) :
    Shifts (fun depth => printChildren depth items) (childLineBreaks items) := by
  simp only [printChildren_eq, childLineBreaks_eq]
  refine Shifts.flatMap fun o member => ?_
  simpa [Nat.add_comm] using Shifts.newline.append (each o member)

theorem body_shifts {tag : String} (line : OneLine tag.toList) {content : Content}
    (below : ∀ c ∈ content.items, c.outline.Shifts) :
    Shifts (fun depth => (Element.outlineContent content).print depth tag)
      (Element.outlineContent content).lineBreaks := by
  have closing := closeTag_oneLine line
  cases content with
  | text s =>
    simp only [Element.outlineContent, Body.print, Body.lineBreaks]
    exact .oneLine (.cons (by decide) ((textContent_oneLine s).append closing))
  | asset url => exact .oneLine (by decide)
  | children items =>
    cases items with
    | nil => exact .oneLine (by decide)
    | cons c rest =>
      have each : ∀ o ∈ Element.outlineAll (c :: rest), o.Shifts := by
        rw [Element.outlineAll_eq, List.forall_mem_map]
        exact below
      have opening : OneLine ['>'] := by decide
      have shifts := (((Shifts.oneLine opening).append (children_shift each).deeper).append
        Shifts.newline).append (.oneLine closing)
      rw [Element.outlineContent]
      rw [Element.outlineAll] at shifts ⊢
      simpa [Body.print, Body.lineBreaks] using shifts

/-- By induction on the element: what is below it breaks lines only where it stands on its own lines. -/
theorem outline_shifts (e : Element) (tags : ∀ d ∈ e.visit, OneLine d.tag.toList) : e.outline.Shifts := by
  induction e using Element.induction_branches with
  | step e ih =>
    have below (c : Element) (branch : c ∈ e.branches) : c.outline.Shifts :=
      ih c branch fun d inside => tags d (Element.visit_branch branch inside)
    have tag := tags e e.mem_visit_self
    have attributes : ∀ a ∈ e.outline.attributes, ShiftsAttribute a := by
      refine e.forall_outline_attributes ?string ?element ?data ?style
      case string => exact fun key s name => ⟨attributeName_oneLine name, string_shifts s⟩
      case element =>
        intro key c name member
        exact ⟨attributeName_oneLine name, node_shifts (below c (Element.attribute_mem_branches member))⟩
      case data => exact fun key value name _ => ⟨attributeName_oneLine name, dataShown_shifts value⟩
      case style =>
        have name : OneLine "style".toList := by decide
        exact ⟨name, style_shifts e.style⟩
    have inside (c : Element) (child : c ∈ e.content.items) : c.outline.Shifts :=
      below c (Element.child_mem_branches child)
    have body := body_shifts tag inside
    have opening : OneLine ('<' :: e.tag.toList) := .cons (by decide) tag
    rw [Element.outline_eq] at attributes ⊢
    simpa [Outline.Shifts, Outline.print, Outline.lineBreaks] using
      ((Shifts.oneLine opening).append (attributes_shift attributes)).append body

end Markup

open Markup

/-- Without hooks, markup at a greater depth is the same markup with its lines moved to the right, if no
tag breaks a line. There are the lines of children and of the closing tags behind them, and no others. -/
theorem depth_shifts_lines {Memory : Type} [Inhabited Memory] (registry : Registry Memory)
    (nesting depth levels : Nat) (tree : Frozen) (memory : Memory)
    (hookless : ∀ e ∈ tree.element.visit, e.template = none)
    (tags : ∀ e ∈ tree.element.visit, '\n' ∉ e.tag.toList) :
    ∃ r s, renderAt? registry nesting depth tree memory = some r ∧
      renderAt? registry nesting (depth + levels) tree memory = some s ∧
      s.markup.toList = shiftLines levels r.markup.toList ∧
      r.markup.toList.count '\n' = tree.element.outline.lineBreaks := by
  obtain ⟨r, ran, printed⟩ := rendering_prints registry nesting depth tree memory hookless
  obtain ⟨s, ran', printed'⟩ := rendering_prints registry nesting (depth + levels) tree memory hookless
  have shifts := outline_shifts tree.element tags
  refine ⟨r, s, ran, ran', ?_, ?_⟩
  · rw [printed, printed', shifts.shift]
  · rw [printed, shifts.count]

def pinnedNote : Frozen :=
  let icon := (Element.of "svg" "Pin" "VECTOR").withChildren [Element.of "path" "Line" "VECTOR"]
  let label := (Element.of "p" "Label" "TEXT").withText "First\nsecond"
  ⟨((Element.of "div" "Note" "FRAME").withAttribute "icon" (.element icon)).withChildren [label], by decide⟩

theorem pinnedNote_shifts :
    (∀ e ∈ pinnedNote.element.visit, e.template = none) ∧
    (∀ e ∈ pinnedNote.element.visit, '\n' ∉ e.tag.toList) ∧
    ∃ r s, renderAt? ([] : Registry) 0 1 pinnedNote = some r ∧
      renderAt? ([] : Registry) 0 3 pinnedNote = some s ∧
      s.markup.toList = shiftLines 2 r.markup.toList ∧ r.markup.toList.count '\n' = 4 := by
  have hookless : ∀ e ∈ pinnedNote.element.visit, e.template = none := by decide
  have tags : ∀ e ∈ pinnedNote.element.visit, '\n' ∉ e.tag.toList := by decide
  exact ⟨hookless, tags, depth_shifts_lines [] 0 1 2 pinnedNote () hookless tags⟩

end DesignMarkup
