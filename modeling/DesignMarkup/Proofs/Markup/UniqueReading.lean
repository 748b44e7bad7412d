import DesignMarkup.Proofs.Element.Visit
import DesignMarkup.Proofs.Markup.Outline
import DesignMarkup.Text.Basic
/-!
Markup is uniquely readable: an outline is told from its text, and the text shows where the outline
ends. By induction over the outline, piece by piece: the tag, each attribute, the text or the
children.
-/
namespace DesignMarkup.Markup
open Json Text

def tagMarks : List Char := ['<', '>', '/', '\x7b', '\x7d', '=', '"']

/-- No blank, and no character that stands around a tag or an attribute. -/
def isTagChar (c : Char) : Bool := !isBlank c && !tagMarks.contains c

/-- An element without a hook whose tag can be read, and whose data are JSON values. -/
structure Plain (e : Element) : Prop where
  hookless : e.template = none
  tag : ∀ c ∈ e.tag.toList, isTagChar c = true
  data : ∀ key value, (key, Attribute.data value) ∈ e.attributes.extra → value.standard = true
  style : ∀ entry ∈ e.style.extra, entry.2.standard = true

def Outline.Legible (o : Outline) : Prop := ∃ e : Element, (∀ d ∈ e.visit, Plain d) ∧ e.outline = o

def Shown.Legible : Shown → Prop
  | .data value => value.standard = true ∧ value.form ≠ .string
  | .node o => o.Legible
  | .style declarations => ∀ d ∈ declarations, ValueText d.2
  | .flag | .string _ => True

def Body.Legible : Body → Prop
  | .text _ => True
  | .children items => ∀ o ∈ items, o.Legible

structure LegibleAttribute (a : String × Shown) : Prop where
  name : isAttributeName a.1 = true
  value : a.2.Legible

theorem dataShown_legible {value : Json} (standard : value.standard = true) :
    (dataShown value).Legible := by
  cases value with
  | string => trivial
  | bool b =>
    cases b with
    | true => trivial
    | false => exact ⟨rfl, nofun⟩
  | null | int | float | array | object => exact ⟨standard, nofun⟩

namespace Outline.Legible
variable {o : Outline}

theorem tag (h : o.Legible) : ∀ c ∈ o.tag.toList, isTagChar c = true := by
  obtain ⟨e, plain, rfl⟩ := h
  rw [Element.outline_eq]
  exact (plain e e.mem_visit_self).tag

theorem of_branch {e c : Element} (plain : ∀ d ∈ e.visit, Plain d) (branch : c ∈ e.branches) :
    c.outline.Legible :=
  ⟨c, fun d inside => plain d (Element.visit_branch branch inside), rfl⟩

theorem attributes (h : o.Legible) : ∀ a ∈ o.attributes, LegibleAttribute a := by
  obtain ⟨e, plain, rfl⟩ := h
  have own := plain e e.mem_visit_self
  refine e.forall_outline_attributes (fun key s name => ⟨name, trivial⟩) ?element ?data ?style
  case element =>
    intro key c name member
    exact ⟨name, of_branch plain (Element.attribute_mem_branches member)⟩
  case data =>
    intro key value name member
    exact ⟨name, dataShown_legible (own.data key value member)⟩
  case style =>
    have name : isAttributeName "style" = true := by decide
    exact ⟨name, Style.printed_valueText own.style⟩

theorem body (h : o.Legible) : o.body.Legible := by
  obtain ⟨e, plain, rfl⟩ := h
  rw [Element.outline_eq]
  cases content : e.content with
  | text => trivial
  | asset => simp [Element.outlineContent, Body.Legible]
  | children items =>
    rw [Element.outlineContent, Element.outlineAll_eq]
    refine List.forall_mem_map.2 fun c member => of_branch plain (Element.child_mem_branches ?_)
    rwa [Element.children, content]

end Outline.Legible

inductive Kind where
  | flag
  | bare
  | quoted
  | data
  | node
  | style

def Shown.kind : Shown → Kind
  | .flag => .flag
  | .string s => if needsBraces stringMarks s then .quoted else .bare
  | .data _ => .data
  | .node _ => .node
  | .style _ => .style

def kindOf (text : List Char) : Kind :=
  if ['=', '"'].isPrefixOf text then .bare
  else if ['=', '\x7b', '"'].isPrefixOf text then .quoted
  else if ['=', '\x7b', '<'].isPrefixOf text then .node
  else if ['=', '\x7b', '\x7b', ' '].isPrefixOf text then .style
  else if ['='].isPrefixOf text then .data
  else .flag

def AfterValue (s : List Char) : Prop := Stops (fun c => isAttributePart c || c == '=') s

theorem object_begins (entries : List (String × Json)) (s : List Char) :
    ∃ c rest, (Json.object entries).compactChars ++ s = '\x7b' :: c :: rest ∧ c ≠ ' ' := by
  rw [compactChars, compactEntries_eq]
  cases entries with
  | nil => exact ⟨'\x7d', s, by simp, by decide⟩
  | cons entry rest =>
    rw [List.map_cons, intercalate_cons, entryChars, quoteChars]
    exact ⟨'"', _, rfl, by decide⟩

theorem kindOf_data {v : Json} (other : v.form ≠ .string) (s : List Char) :
    kindOf ('=' :: '\x7b' :: (v.compactChars ++ s)) = .data := by
  cases kind : v.form with
  | string => exact absurd kind other
  | object =>
    cases v with
    | object entries =>
      obtain ⟨c, rest, text, notBlank⟩ := object_begins entries s
      simp [text, kindOf, notBlank.symm]
    | null | bool | int | float | string | array => cases kind
  | scalar | array =>
    obtain ⟨c, rest, text, form⟩ := compact_begins v
    have apart {mark : Char} (no : Form.ofChar? mark ≠ some v.form) : mark ≠ c := by
      rintro rfl
      exact no form
    rw [kind] at apart
    simp [text, kindOf, apart (show Form.ofChar? '"' ≠ _ by decide), apart (show Form.ofChar? '<' ≠ _ by decide),
      apart (show Form.ofChar? '\x7b' ≠ _ by decide)]

theorem kindOf_print (depth : Nat) {v : Shown} (legible : v.Legible) {s : List Char}
    (after : AfterValue s) : kindOf (v.print depth ++ s) = v.kind := by
  cases v with
  | flag =>
    cases s with
    | nil => rfl
    | cons c rest =>
      have stop := after c rfl
      have other : '=' ≠ c := by
        rintro rfl
        simp at stop
      simp [Shown.print, Shown.kind, kindOf, other]
  | string s =>
    rw [Shown.print, stringChars, Shown.kind]
    split <;> simp [kindOf, bracedChars, quoteChars]
  | data v =>
    rw [Shown.print, bracedChars, List.cons_append, List.cons_append, List.cons_append,
      List.append_assoc]
    exact kindOf_data legible.2 _
  | node o =>
    obtain ⟨tag, attributes, body⟩ := o
    simp [Shown.print, Shown.kind, Outline.print, kindOf, bracedChars]
  | style ds => simp [Shown.print, Shown.kind, kindOf, styleChars, bracedChars]

theorem not_mem_of_bare {marks : List Char} {text : String} (bare : needsBraces marks text ≠ true)
    {mark : Char} (isMark : mark ∈ marks) : ∀ c ∈ text.toList, (c != mark) = true := by
  intro c member
  refine bne_iff_ne.2 ?_
  rintro rfl
  exact bare (List.any_eq_true.2 ⟨c, member, List.contains_iff_mem.2 isMark⟩)

theorem stringChars_split {x y : String} {s t : List Char}
    (alike : (Shown.string x).kind = (Shown.string y).kind)
    (same : stringChars x ++ s = stringChars y ++ t) : x = y ∧ s = t := by
  unfold stringChars at same
  rw [Shown.kind, Shown.kind] at alike
  by_cases hx : needsBraces stringMarks x = true <;> by_cases hy : needsBraces stringMarks y = true
  · rw [if_pos hx, if_pos hy] at same
    simp only [bracedChars, List.cons_append, List.append_assoc] at same
    obtain ⟨texts, rest⟩ :=
      quoteChars_splits _ _ trivial _ _ trivial trivial (List.cons.inj same).2
    exact ⟨String.toList_inj.1 texts, (List.cons.inj rest).2⟩
  · rw [if_pos hx, if_neg hy] at alike
    cases alike
  · rw [if_neg hx, if_pos hy] at alike
    cases alike
  · rw [if_neg hx, if_neg hy] at same
    simp only [List.cons_append, List.append_assoc, List.nil_append] at same
    have stop (s : List Char) : Stops (· != '"') ('"' :: s) := stops_cons (bne_self_eq_false '"')
    obtain ⟨texts, rest⟩ := token_split (not_mem_of_bare hx (by decide))
      (not_mem_of_bare hy (by decide)) (stop s) (stop t) (List.cons.inj same).2
    exact ⟨String.toList_inj.1 texts, (List.cons.inj rest).2⟩

theorem string_of_kind {x : String} {w : Shown} (alike : (Shown.string x).kind = w.kind) :
    ∃ y, w = .string y := by
  cases w with
  | string y => exact ⟨y, rfl⟩
  | flag | data | node | style =>
    simp only [Shown.kind] at alike
    split at alike <;> cases alike

theorem value_splits {depth : Nat} {v : Shown} (legible : v.Legible)
    (inside : ∀ o, v = .node o → Splits Outline.Legible (Outline.print depth) always o) :
    Splits Shown.Legible (Shown.print depth) AfterValue v := by
  intro w legible' s t after after' same
  have alike : v.kind = w.kind := by
    rw [← kindOf_print depth legible after, same, kindOf_print depth legible' after']
  cases v with
  | flag =>
    cases w with
    | flag => exact ⟨rfl, same⟩
    | string => obtain ⟨_, ⟨⟩⟩ := string_of_kind alike.symm
    | data | node | style => cases alike
  | string x =>
    cases w with
    | string y =>
      obtain ⟨rfl, rest⟩ := stringChars_split alike (List.cons.inj same).2
      exact ⟨rfl, rest⟩
    | flag | data | node | style => obtain ⟨_, ⟨⟩⟩ := string_of_kind alike
  | data x =>
    cases w with
    | data y =>
      simp only [Shown.print, bracedChars, List.cons_append, List.append_assoc, List.cons.injEq,
        true_and, List.nil_append] at same
      obtain ⟨rfl, rest⟩ := told_value x legible.1 y legible'.1 _ _ (stops_cons rfl) (stops_cons rfl) same
      exact ⟨rfl, (List.cons.inj rest).2⟩
    | string => obtain ⟨_, ⟨⟩⟩ := string_of_kind alike.symm
    | flag | node | style => cases alike
  | node o =>
    cases w with
    | node p =>
      simp only [Shown.print, bracedChars, List.cons_append, List.append_assoc, List.cons.injEq,
        true_and, List.nil_append] at same
      obtain ⟨rfl, rest⟩ := inside o rfl p legible' _ _ trivial trivial same
      exact ⟨rfl, (List.cons.inj rest).2⟩
    | string => obtain ⟨_, ⟨⟩⟩ := string_of_kind alike.symm
    | flag | data | style => cases alike
  | style ds =>
    cases w with
    | style es =>
      simp only [Shown.print, styleChars, bracedChars, List.cons_append, List.append_assoc,
        List.cons.injEq, true_and, List.nil_append] at same
      obtain ⟨rfl, rest⟩ :=
        declarations_split legible legible' (goesOn_cons.2 rfl) (goesOn_cons.2 rfl) same
      exact ⟨rfl, by simpa using rest⟩
    | string => obtain ⟨_, ⟨⟩⟩ := string_of_kind alike.symm
    | flag | data | node => cases alike

theorem name_begins {key : String} (name : isAttributeName key = true) :
    ∃ c rest, key.toList = c :: rest ∧ isAttributeStart c = true ∧
      ∀ d ∈ key.toList, isAttributePart d = true := by
  unfold isAttributeName at name
  split at name
  · cases name
  · rename_i c rest text
    rw [Bool.and_eq_true, List.all_eq_true] at name
    refine ⟨c, rest, text, name.1, text ▸ List.forall_mem_cons.2 ⟨?_, name.2⟩⟩
    have start := name.1
    simp only [isAttributeStart, isAttributePart, isAlphanumeric, Bool.or_eq_true] at start ⊢
    exact .inl (start.imp_left (.imp_left .inl))

theorem value_stops (depth : Nat) (v : Shown) {s : List Char} (after : AfterValue s) :
    Stops isAttributePart (v.print depth ++ s) := by
  have equals (rest : List Char) : Stops isAttributePart ('=' :: rest) := stops_cons (by decide)
  cases v with
  | flag =>
    intro c first
    exact (Bool.or_eq_false_iff.1 (after c first)).1
  | string | data | node | style => exact equals _

theorem attribute_splits {depth : Nat} {a : String × Shown} (legible : LegibleAttribute a)
    (value : Splits Shown.Legible (Shown.print depth) AfterValue a.2) :
    Splits LegibleAttribute (printAttribute depth) AfterValue a := by
  obtain ⟨key, v⟩ := a
  rintro ⟨otherKey, w⟩ legible' s t after after' same
  simp only [printAttribute, List.cons_append, List.append_assoc] at same
  obtain ⟨_, _, _, _, inKey⟩ := name_begins legible.name
  obtain ⟨_, _, _, _, inOther⟩ := name_begins legible'.name
  obtain ⟨keys, rest⟩ := token_split inKey inOther (value_stops depth v after)
    (value_stops depth w after') (List.cons.inj same).2
  obtain ⟨rfl, last⟩ := value w legible'.value s t after after' rest
  exact ⟨Prod.ext (String.toList_inj.1 keys) rfl, last⟩

def TagEnds (s : List Char) : Prop := GoesOn '>' s ∨ ∃ rest, s = ' ' :: '/' :: rest

theorem TagEnds.after {s : List Char} (h : TagEnds s) : AfterValue s := by
  rcases h with close | ⟨rest, rfl⟩
  · exact close.stops (by decide)
  · exact stops_cons (by decide)

theorem attributes_split {depth : Nat} {xs ys : List (String × Shown)} {s t : List Char}
    (each : ∀ a ∈ xs, Splits LegibleAttribute (printAttribute depth) AfterValue a)
    (inX : ∀ a ∈ xs, LegibleAttribute a) (inY : ∀ a ∈ ys, LegibleAttribute a) (endS : TagEnds s)
    (endT : TagEnds t) (same : printAttributes depth xs ++ s = printAttributes depth ys ++ t) :
    xs = ys ∧ s = t := by
  rw [printAttributes_eq, printAttributes_eq] at same
  have next (a : String × Shown) (s : List Char) (_ : LegibleAttribute a) :
      AfterValue (printAttribute depth a ++ s) := stops_cons (by decide)
  have apart (a : String × Shown) (s : List Char) (legible : LegibleAttribute a) :
      ¬ TagEnds (printAttribute depth a ++ s) := by
    obtain ⟨c, rest, text, start, _⟩ := name_begins legible.name
    rw [printAttribute, text]
    rintro (close | ⟨_, slash⟩)
    · cases goesOn_cons.1 close
    · simp only [List.cons_append, List.cons.injEq, true_and] at slash
      rw [slash.1] at start
      cases start
  exact row_split each next (fun s => TagEnds.after) apart inX inY endS endT same

def textMarks : List Char := ['\x7b', '\x7d', '<', '>', '\n']

theorem textContent_braced {x : String} (braces : needsBraces textMarks x = true) :
    (textContent x).toList = bracedChars (quoteChars x.toList) := by
  rw [textContent, ← textMarks, if_pos braces, braced_toList, quote, String.toList_ofList]

theorem textContent_bare {x : String} (bare : needsBraces textMarks x ≠ true) :
    (textContent x).toList = x.toList := by rw [textContent, ← textMarks, if_neg bare]

theorem bare_begins {x : String} (bare : needsBraces textMarks x ≠ true) {mark : Char}
    (isMark : mark ∈ textMarks) (other : mark ≠ '<') {s : List Char} (ends : GoesOn '<' s) :
    ¬ GoesOn mark (x.toList ++ s) := by
  cases text : x.toList with
  | nil =>
    intro goesOn
    exact other (Option.some.inj (goesOn.symm.trans ends))
  | cons c rest =>
    rw [List.cons_append, goesOn_cons]
    exact bne_iff_ne.1 (not_mem_of_bare bare isMark c (text ▸ List.mem_cons_self))

theorem braced_apart {x y : String} (braces : needsBraces textMarks x = true)
    (bare : needsBraces textMarks y ≠ true) {s t : List Char} (ends : GoesOn '<' t) :
    (textContent x).toList ++ s ≠ (textContent y).toList ++ t := by
  intro same
  rw [textContent_braced braces, textContent_bare bare] at same
  have brace : GoesOn '\x7b' (y.toList ++ t) := by
    rw [← same]
    exact goesOn_cons.2 rfl
  exact bare_begins bare (by decide) (by decide) ends brace

theorem textContent_splits (x : String) :
    Splits always (fun y => (textContent y).toList) (GoesOn '<') x := by
  intro y _ s t endS endT same
  by_cases hx : needsBraces textMarks x = true <;> by_cases hy : needsBraces textMarks y = true
  · simp only [textContent_braced hx, textContent_braced hy, bracedChars, List.cons_append,
      List.append_assoc] at same
    obtain ⟨texts, rest⟩ :=
      quoteChars_splits _ _ trivial _ _ trivial trivial (List.cons.inj same).2
    exact ⟨String.toList_inj.1 texts, (List.cons.inj rest).2⟩
  · exact absurd same (braced_apart hx hy endT)
  · exact absurd same.symm (braced_apart hy hx endS)
  · simp only [textContent_bare hx, textContent_bare hy] at same
    obtain ⟨texts, rest⟩ := token_split (not_mem_of_bare hx (by decide))
      (not_mem_of_bare hy (by decide)) (endS.stops (bne_self_eq_false '<'))
      (endT.stops (bne_self_eq_false '<')) same
    exact ⟨String.toList_inj.1 texts, rest⟩

theorem textContent_begins (x : String) {s : List Char} (ends : GoesOn '<' s) :
    ¬ GoesOn '\n' ((textContent x).toList ++ s) := by
  by_cases braces : needsBraces textMarks x = true
  · rw [textContent_braced braces, bracedChars]
    simp [GoesOn]
  · rw [textContent_bare braces]
    exact bare_begins braces (by decide) (by decide) ends

theorem closeTag_toList (tag : String) : (closeTag tag).toList = '<' :: '/' :: tag.toList ++ ['>'] := by
  simp [closeTag]

theorem newline_succ (depth : Nat) : newline (depth + 1) = newline depth ++ [' ', ' '] := by
  rw [newline, newline, List.cons_append, Nat.mul_add, Nat.mul_one, List.replicate_add]
  rfl

theorem children_split {depth : Nat} {xs ys : List Outline} {s t : List Char}
    (each : ∀ o ∈ xs, Splits Outline.Legible (Outline.print (depth + 1)) always o)
    (inX : ∀ o ∈ xs, o.Legible) (inY : ∀ o ∈ ys, o.Legible)
    (same : printChildren (depth + 1) xs ++ (newline depth ++ '<' :: s) =
      printChildren (depth + 1) ys ++ (newline depth ++ '<' :: t)) : xs = ys ∧ s = t := by
  rw [printChildren_eq, printChildren_eq] at same
  -- the closing tag stands two places to the left of the children
  have apart (o : Outline) (u : List Char) (_ : o.Legible) :
      ¬ newline depth ++ ['<'] <+: (newline (depth + 1) ++ o.print (depth + 1)) ++ u := by
    rw [newline_succ]
    simp [List.prefix_append_right_inj]
  have closes (u : List Char) : newline depth ++ ['<'] <+: newline depth ++ '<' :: u := by simp
  obtain ⟨rfl, rest⟩ := row_split (fun o member => (each o member).after (newline (depth + 1)))
    (fun _ _ _ => trivial) (fun _ _ => trivial) apart inX inY (closes s) (closes t) same
  exact ⟨rfl, (List.cons.inj (List.append_cancel_left rest)).2⟩

theorem closeTag_begins (tag : String) (s : List Char) : GoesOn '<' ((closeTag tag).toList ++ s) := by
  rw [closeTag_toList]
  exact goesOn_cons.2 rfl

theorem text_apart {depth : Nat} {tag x : String} {o : Outline} {rest : List Outline}
    {s t : List Char} : (Body.text x).print depth tag ++ s ≠
      (Body.children (o :: rest)).print depth tag ++ t := by
  intro same
  simp only [Body.print, List.cons_append, List.append_assoc] at same
  have line : GoesOn '\n' ((textContent x).toList ++ ((closeTag tag).toList ++ s)) := by
    rw [(List.cons.inj same).2]
    exact goesOn_cons.2 rfl
  exact textContent_begins x (closeTag_begins tag s) line

theorem body_splits {depth : Nat} {tag : String} {b : Body} (legible : b.Legible)
    (inside : ∀ items, b = .children items →
      ∀ o ∈ items, Splits Outline.Legible (Outline.print (depth + 1)) always o) :
    Splits Body.Legible (Body.print depth tag) always b := by
  intro c legible' s t _ _ same
  cases b with
  | text x =>
    cases c with
    | text y =>
      simp only [Body.print, List.cons_append, List.append_assoc] at same
      obtain ⟨rfl, rest⟩ := textContent_splits x y trivial _ _ (closeTag_begins tag s)
        (closeTag_begins tag t) (List.cons.inj same).2
      exact ⟨rfl, List.append_cancel_left rest⟩
    | children ps =>
      rcases ps with _ | ⟨p, ps⟩
      · cases (List.cons.inj same).1
      · exact absurd same text_apart
  | children os =>
    cases c with
    | text y =>
      rcases os with _ | ⟨o, os⟩
      · cases (List.cons.inj same).1
      · exact absurd same.symm text_apart
    | children ps =>
      rcases os with _ | ⟨o, os⟩ <;> rcases ps with _ | ⟨p, ps⟩
      · exact ⟨rfl, List.append_cancel_left same⟩
      · cases (List.cons.inj same).1
      · cases (List.cons.inj same).1
      · simp only [Body.print, closeTag_toList, List.cons_append, List.append_assoc, List.cons.injEq,
          true_and] at same
        obtain ⟨children, rest⟩ := children_split (inside _ rfl) legible legible' same
        exact ⟨congrArg Body.children children, by simpa using rest⟩

theorem body_begins (depth : Nat) (tag : String) (b : Body) (s : List Char) :
    TagEnds (b.print depth tag ++ s) := by
  match b with
  | .text _ => exact .inl rfl
  | .children [] => exact .inr ⟨_, rfl⟩
  | .children (_ :: _) => exact .inl rfl

theorem tag_ends {depth : Nat} {attributes : List (String × Shown)} {s : List Char}
    (ends : TagEnds s) : Stops isTagChar (printAttributes depth attributes ++ s) := by
  cases attributes with
  | nil =>
    rcases ends with close | ⟨rest, rfl⟩
    · exact close.stops (by decide)
    · exact stops_cons (by decide)
  | cons => exact stops_cons (by decide)

theorem outline_of_parts {depth : Nat} {o : Outline} (legible : o.Legible)
    (attributes : ∀ a ∈ o.attributes, Splits LegibleAttribute (printAttribute depth) AfterValue a)
    (body : Splits Body.Legible (Body.print depth o.tag) always o.body) :
    Splits Outline.Legible (Outline.print depth) always o := by
  intro p legible' s t _ _ same
  have parts (q : Outline) (u : List Char) : q.print depth ++ u =
      '<' :: (q.tag.toList ++ (printAttributes depth q.attributes ++ (q.body.print depth q.tag ++ u))) := by
    obtain ⟨_, _, _⟩ := q
    simp [Outline.print]
  rw [parts, parts] at same
  obtain ⟨tags, rest⟩ := token_split legible.tag legible'.tag (tag_ends (body_begins ..))
    (tag_ends (body_begins ..)) (List.cons.inj same).2
  obtain ⟨sameAttributes, rest⟩ := attributes_split attributes legible.attributes
    legible'.attributes (body_begins ..) (body_begins ..) rest
  rw [← String.toList_inj.1 tags] at rest
  obtain ⟨bodies, last⟩ := body p.body legible'.body s t trivial trivial rest
  obtain ⟨_, _, _⟩ := o
  obtain ⟨_, _, _⟩ := p
  exact ⟨congr (congrArg₂ Outline.mk (String.toList_inj.1 tags) sameAttributes) bodies, last⟩

mutual

theorem outline_splits : ∀ (o : Outline) (depth : Nat), o.Legible →
    Splits Outline.Legible (Outline.print depth) always o
  | ⟨tag, attributes, body⟩, depth, legible =>
    outline_of_parts legible (list_splits attributes depth legible.attributes)
      (inner_splits body depth tag legible.body)

theorem list_splits : ∀ (attributes : List (String × Shown)) (depth : Nat),
    (∀ a ∈ attributes, LegibleAttribute a) →
    ∀ a ∈ attributes, Splits LegibleAttribute (printAttribute depth) AfterValue a
  | [], _, _ => nofun
  | (key, value) :: rest, depth, legible => by
    rw [List.forall_mem_cons] at legible ⊢
    exact ⟨attribute_splits legible.1 (shown_splits value depth legible.1.value),
      list_splits rest depth legible.2⟩

theorem shown_splits : ∀ (v : Shown) (depth : Nat), v.Legible →
    Splits Shown.Legible (Shown.print depth) AfterValue v
  | .node o, depth, legible => value_splits legible fun | _, rfl => outline_splits o depth legible
  | .flag, _, legible | .string _, _, legible | .data _, _, legible | .style _, _, legible =>
    value_splits legible nofun

theorem inner_splits : ∀ (b : Body) (depth : Nat) (tag : String), b.Legible →
    Splits Body.Legible (Body.print depth tag) always b
  | .text _, _, _, legible => body_splits legible nofun
  | .children items, depth, _, legible =>
    body_splits legible fun | _, rfl => items_splits items (depth + 1) legible

theorem items_splits : ∀ (items : List Outline) (depth : Nat), (∀ o ∈ items, o.Legible) →
    ∀ o ∈ items, Splits Outline.Legible (Outline.print depth) always o
  | [], _, _ => nofun
  | o :: rest, depth, legible => by
    rw [List.forall_mem_cons] at legible ⊢
    exact ⟨outline_splits o depth legible.1, items_splits rest depth legible.2⟩

end

/-- Two trees without hooks have the same markup just if the same tags, attributes, texts and children
stand in it, in the same order; and no markup goes on as another one. -/
theorem markup_uniquely_readable {Memory Memory' : Type} [Inhabited Memory] [Inhabited Memory']
    (registry : Registry Memory) (registry' : Registry Memory') (nesting nesting' depth : Nat)
    (a b : Frozen) (memory : Memory) (memory' : Memory')
    (plain : ∀ d ∈ a.element.visit, Plain d) (plain' : ∀ d ∈ b.element.visit, Plain d) :
    ∃ ra rb, renderAt? registry nesting depth a memory = some ra ∧
      renderAt? registry' nesting' depth b memory' = some rb ∧
      (ra.markup = rb.markup ↔ a.element.outline = b.element.outline) ∧
      ∀ s t, ra.markup ++ s = rb.markup ++ t → a.element.outline = b.element.outline ∧ s = t := by
  obtain ⟨ra, ranA, printedA⟩ := rendering_prints registry nesting depth a memory
    fun d member => (plain d member).hookless
  obtain ⟨rb, ranB, printedB⟩ := rendering_prints registry' nesting' depth b memory'
    fun d member => (plain' d member).hookless
  have told (s t : String) (same : ra.markup ++ s = rb.markup ++ t) :
      a.element.outline = b.element.outline ∧ s = t := by
    have texts := congrArg String.toList same
    rw [String.toList_append, String.toList_append, printedA, printedB] at texts
    obtain ⟨outlines, rest⟩ := outline_splits a.element.outline depth ⟨_, plain, rfl⟩
      b.element.outline ⟨_, plain', rfl⟩ _ _ trivial trivial texts
    exact ⟨outlines, String.toList_inj.1 rest⟩
  refine ⟨ra, rb, ranA, ranB, ⟨fun same => (told "" "" (by rw [same])).1, fun same => ?_⟩, told⟩
  rw [← String.toList_inj, printedA, printedB, same]

/-- A label whose text reads like a mark, and one with that mark below it. -/
def spelledLabel : Frozen := ⟨(Element.of "p" "Label" "TEXT").withText "<b />", by decide⟩

def markedLabel : Frozen :=
  ⟨(Element.of "p" "Label" "TEXT").withChildren [Element.of "b" "Mark" "VECTOR"], by decide⟩

theorem labels_read_apart :
    (∀ d ∈ spelledLabel.element.visit, Plain d) ∧ (∀ d ∈ markedLabel.element.visit, Plain d) ∧
      ∃ ra rb, renderAt? ([] : Registry) 0 0 spelledLabel = some ra ∧
        renderAt? ([] : Registry) 0 0 markedLabel = some rb ∧ ra.markup ≠ rb.markup := by
  have bare (tag name kind : String) (content : Content)
      (isTag : tag.toList.all isTagChar = true) :
      Plain { Element.of tag name kind with content } := ⟨rfl, List.all_eq_true.1 isTag, nofun, nofun⟩
  have spelled : ∀ d ∈ spelledLabel.element.visit, Plain d :=
    List.forall_mem_singleton.2 (bare "p" "Label" "TEXT" _ (by decide))
  have marked : ∀ d ∈ markedLabel.element.visit, Plain d :=
    List.forall_mem_cons.2 ⟨bare "p" "Label" "TEXT" _ (by decide),
      List.forall_mem_singleton.2 (bare "b" "Mark" "VECTOR" _ (by decide))⟩
  obtain ⟨ra, rb, ranA, ranB, same, _⟩ :=
    markup_uniquely_readable [] [] 0 0 0 spelledLabel markedLabel () () spelled marked
  refine ⟨spelled, marked, ra, rb, ranA, ranB, fun alike => ?_⟩
  have bodies := congrArg Outline.body (same.1 alike)
  rw [Element.outline_eq, Element.outline_eq] at bodies
  exact nomatch bodies

end DesignMarkup.Markup
