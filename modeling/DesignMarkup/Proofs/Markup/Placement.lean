import DesignMarkup.Proofs.Element.Visit
import DesignMarkup.Proofs.Markup.Outline
/-!
Where elements stand in markup without hooks: the text of an element holds, at one place each, the
texts of the elements below it that are written.
-/
namespace DesignMarkup.Element
open Markup

/-- The element, and what is written below it. Attributes whose names cannot be written are not. -/
inductive Shows : Element → Element → Prop where
  | self (e : Element) : Shows e e
  | ofChild {e c d : Element} (member : c ∈ e.children) (below : Shows c d) : Shows e d
  | ofAttribute {e c d : Element} {key : String} (member : (key, .element c) ∈ e.attributes.extra)
      (name : isAttributeName key = true) (below : Shows c d) : Shows e d

theorem Shows.reaches {e d : Element} (shows : Shows e d) : e.Reaches d := by
  induction shows with
  | self e => exact .self e
  | ofChild member _ ih => exact .ofChild member ih
  | ofAttribute member _ _ ih => exact .ofAttribute member ih

theorem outlineExtra_append (xs ys : List (String × Attribute)) :
    outlineExtra (xs ++ ys) = outlineExtra xs ++ outlineExtra ys := by
  induction xs with
  | nil => rw [outlineExtra]; rfl
  | cons entry rest ih =>
    obtain ⟨key, value⟩ := entry
    rw [List.cons_append, outlineExtra, outlineExtra, ih]
    split <;> rfl

end DesignMarkup.Element

namespace DesignMarkup.Markup
open Element Json

/-- In the text of `e` at a depth the text of `d` stands at depth `k`, after `before` and before
`after`. -/
inductive WrittenIn : (depth : Nat) → (e : Element) → (k : Nat) → (d : Element) →
    (before after : List Char) → Prop where
  | self (depth : Nat) (e : Element) : WrittenIn depth e depth e [] []
  | ofChild {depth k : Nat} {e c d : Element} {first others : List Element}
      {before after : List Char} (content : e.content = .children (first ++ c :: others))
      (below : WrittenIn (depth + 1) c k d before after) :
      WrittenIn depth e k d
        ('<' :: e.tag.toList ++ printAttributes depth e.outline.attributes ++ '>' ::
          printChildren (depth + 1) (outlineAll first) ++ newline (depth + 1) ++ before)
        (after ++ printChildren (depth + 1) (outlineAll others) ++ newline depth ++
          (closeTag e.tag).toList)
  | ofAttribute {depth k : Nat} {e c d : Element} {key : String}
      {first others : List (String × Attribute)} {before after : List Char}
      (extra : e.attributes.extra = first ++ (key, .element c) :: others)
      (name : isAttributeName key = true) (below : WrittenIn depth c k d before after) :
      WrittenIn depth e k d
        ('<' :: e.tag.toList ++
          printAttributes depth (commonShown e.attributes e.asset? ++ outlineExtra first) ++
          ' ' :: key.toList ++ ['=', '\x7b'] ++ before)
        (after ++ '\x7d' :: printAttributes depth (outlineExtra others ++ styleShown e.style) ++
          (outlineContent e.content).print depth e.tag)

theorem printAttributes_append (depth : Nat) (xs ys : List (String × Shown)) :
    printAttributes depth (xs ++ ys) = printAttributes depth xs ++ printAttributes depth ys := by
  simp only [printAttributes_eq, List.flatMap_append]

theorem outline_print (depth : Nat) (e : Element) : e.outline.print depth =
    '<' :: e.tag.toList ++ printAttributes depth e.outline.attributes ++
      (outlineContent e.content).print depth e.tag := by
  rw [outline_eq, Outline.print]

theorem printChildren_body {items : List Outline} (depth : Nat) (tag : String) (some : items ≠ []) :
    Body.print depth tag (.children items) =
      '>' :: printChildren (depth + 1) items ++ newline depth ++ (closeTag tag).toList := by
  cases items with
  | nil => exact absurd rfl some
  | cons o rest => rw [Body.print]

theorem WrittenIn.print {depth k : Nat} {e d : Element} {before after : List Char}
    (written : WrittenIn depth e k d before after) :
    e.outline.print depth = before ++ d.outline.print k ++ after := by
  induction written with
  | self => simp
  | @ofChild depth k e c d first others before after content below ih =>
    have body : (outlineContent e.content).print depth e.tag = '>' ::
        (printChildren (depth + 1) (outlineAll first) ++ newline (depth + 1) ++
          c.outline.print (depth + 1) ++ printChildren (depth + 1) (outlineAll others)) ++
        newline depth ++ (closeTag e.tag).toList := by
      rw [content, outlineContent, outlineAll_eq, printChildren_body _ _ (by simp)]
      simp only [printChildren_eq, outlineAll_eq, List.map_append, List.map_cons,
        List.flatMap_append, List.flatMap_cons, List.append_assoc]
    rw [outline_print, body, ih]
    simp only [List.append_assoc, List.cons_append]
  | @ofAttribute depth k e c d key first others before after extra name below ih =>
    have attributes : e.outline.attributes =
        (commonShown e.attributes e.asset? ++ outlineExtra first) ++
          (key, .node c.outline) :: (outlineExtra others ++ styleShown e.style) := by
      rw [outline_eq, extra, outlineExtra_append, outlineExtra, if_pos name, outlineAttribute]
      simp only [List.append_assoc, List.cons_append]
    rw [outline_print, attributes, printAttributes_append, printAttributes, Shown.print, ih]
    simp only [bracedChars, List.append_assoc, List.cons_append, List.nil_append]

theorem written_of_shows {e d : Element} (shows : e.Shows d) (depth : Nat) :
    ∃ k before after, WrittenIn depth e k d before after := by
  induction shows generalizing depth with
  | self e => exact ⟨depth, [], [], .self depth e⟩
  | @ofChild e c d member _ ih =>
    obtain ⟨k, before, after, below⟩ := ih (depth + 1)
    obtain ⟨first, others, split⟩ := List.append_of_mem member
    have content : e.content = .children (first ++ c :: others) := by
      rw [Element.children] at split
      cases shown : e.content with
      | children items =>
        rw [shown, Content.items] at split
        rw [split]
      | text | asset =>
        simp [shown, Content.items] at split
    exact ⟨k, _, _, .ofChild content below⟩
  | ofAttribute member name _ ih =>
    obtain ⟨k, before, after, below⟩ := ih depth
    obtain ⟨first, others, extra⟩ := List.append_of_mem member
    exact ⟨k, _, _, .ofAttribute extra name below⟩

theorem WrittenIn.shows {depth k : Nat} {e d : Element} {before after : List Char}
    (written : WrittenIn depth e k d before after) : e.Shows d := by
  induction written with
  | self depth e => exact .self e
  | @ofChild _ _ e c _ _ _ _ _ content _ ih =>
    have member : c ∈ e.children := by
      rw [Element.children, content]
      simp [Content.items]
    exact .ofChild member ih
  | ofAttribute extra name _ ih => exact .ofAttribute (by rw [extra]; simp) name ih

end DesignMarkup.Markup
