import DesignMarkup.Proofs.Element.Visit
import DesignMarkup.Markup.Traversal
import Mathlib.Data.List.Basic
/-!
What an element means, without a session: the output of its hook, or else its default form. Nothing
is kept, so every element that is written is worked out anew.
-/
namespace DesignMarkup.Markup
open Element

/-- What a hook does with an element, whatever was written before. It asks for the default form of
elements that hold nothing but what is below its own one. -/
inductive Script (e : Element) where
  | finish (output : String)
  | fail (message : String)
  | panic
  | generate (m : Element) (inside : ∀ c ∈ m.branches, c ∈ e.descendants) (next : String → Script e)

/-- What a script gives, if it is given `generate m` for `m`. -/
def Script.output {e : Element} (generate : Element → String) : Script e → Option String
  | .finish output => some output
  | .fail _ => none
  | .panic => none
  | .generate m _ next => (next (generate m)).output generate

abbrev Scripts := String → Option ((e : Element) → Script e)

def Scripts.output (scripts : Scripts) (generate : Element → String) (e : Element) :
    Option String :=
  (e.template.bind scripts).bind fun script => (script e).output generate

def attributeForm (written : Element → String) (key : String) : Attribute → String
  | .element e => key ++ "=" ++ braced (written e)
  | .data value => dataAttribute key value

def form (written : Nat → Element → String) (depth : Nat) (e : Element) : String :=
  let extra := e.attributes.extra.filterMap fun (key, value) =>
    if isAttributeName key then some (attributeForm (written depth) key value) else none
  assemble e depth extra (e.children.map (written (depth + 1)))

def present (scripts : Scripts) (written : Nat → Element → String) (depth : Nat) (e : Element) :
    String :=
  (scripts.output (form written 0) e).getD (form written depth e)

def denoteWithin (scripts : Scripts) : Nat → Nat → Element → String
  | 0 => fun _ _ => ""
  | n + 1 => present scripts (denoteWithin scripts n)

/-- What is below an element, or below what its hook asks for, is smaller: the count bounds the
steps. -/
def denote (scripts : Scripts) (depth : Nat) (e : Element) : String :=
  denoteWithin scripts e.count depth e

theorem attributeForm_mem_branches {e c : Element} {key : String}
    (entry : (key, .element c) ∈ e.attributes.extra) : c ∈ e.branches := by
  refine List.mem_append_left _ (List.mem_map.2 ⟨(key, c), ?_, rfl⟩)
  exact List.mem_filterMap.2 ⟨_, entry, rfl⟩

theorem form_congr {first second : Nat → Element → String} {e : Element} (depth : Nat)
    (same : ∀ d, ∀ c ∈ e.branches, first d c = second d c) :
    form first depth e = form second depth e := by
  have children : e.children.map (first (depth + 1)) = e.children.map (second (depth + 1)) :=
    List.map_congr_left fun c child => same _ c (List.mem_append_right _ child)
  simp only [form, children]
  congr 1
  refine List.filterMap_congr fun (key, value) entry => ?_
  cases value with
  | element c => simp only [attributeForm, same depth c (attributeForm_mem_branches entry)]
  | data => rfl

theorem Script.output_congr {e : Element} {first second : Element → String}
    (same : ∀ m : Element, (∀ c ∈ m.branches, c ∈ e.descendants) → first m = second m)
    (script : Script e) : script.output first = script.output second := by
  induction script with
  | finish | fail | panic => rfl
  | generate m inside next ih =>
    rw [output, output, same m inside]
    exact ih (second m)

theorem Scripts.output_congr (scripts : Scripts) {e : Element} {first second : Element → String}
    (same : ∀ m : Element, (∀ c ∈ m.branches, c ∈ e.descendants) → first m = second m) :
    scripts.output first e = scripts.output second e := by
  unfold Scripts.output
  congr 1
  funext script
  exact (script e).output_congr same

theorem present_congr (scripts : Scripts) {first second : Nat → Element → String} {e : Element}
    (depth : Nat) (same : ∀ d, ∀ c ∈ e.descendants, first d c = second d c) :
    present scripts first depth e = present scripts second depth e := by
  have own : form first depth e = form second depth e :=
    form_congr depth fun d c part => same d c (mem_descendants.2 ⟨c, part, mem_visit_self c⟩)
  have asked : scripts.output (form first 0) e = scripts.output (form second 0) e :=
    scripts.output_congr fun m inside => form_congr 0 fun d c part => same d c (inside c part)
  rw [present, present, own, asked]

theorem denoteWithin_eq (scripts : Scripts) (n m : Nat) :
    ∀ depth e, e.count ≤ n → e.count ≤ m →
      denoteWithin scripts n depth e = denoteWithin scripts m depth e := by
  induction n generalizing m with
  | zero => exact fun _ e none => absurd none (Nat.not_le.2 e.count_pos)
  | succ n ih =>
    intro depth e enough enough'
    cases m with
    | zero => exact absurd enough' (Nat.not_le.2 e.count_pos)
    | succ m =>
      refine present_congr scripts depth fun d c below => ih m d c ?_ ?_ <;>
      · have smaller := count_lt below
        omega

theorem denote_eq (scripts : Scripts) (depth : Nat) (e : Element) :
    denote scripts depth e =
      (scripts.output (form (denote scripts) 0) e).getD (form (denote scripts) depth e) := by
  rw [denote, denoteWithin_eq scripts e.count (e.count + 1) depth e (by omega) (by omega)]
  refine present_congr scripts depth fun d c below => ?_
  exact denoteWithin_eq scripts _ _ d c (Nat.le_of_lt (count_lt below)) (Nat.le_refl _)

section
variable {scripts : Scripts} {shown : Nat → View → String → Prop}
  (means : ∀ d v text, shown d v text → text = denote scripts d v.element)
include means

theorem extraTexts_eq {depth : Nat} {place : Option Nat} {extra : List (String × Attribute)}
    {texts : List String} (h : ExtraTexts shown depth place extra texts) :
    texts = extra.filterMap fun (key, value) =>
      if isAttributeName key then some (attributeForm (denote scripts depth) key value)
      else none := by
  induction h with
  | nil => rfl
  | skip name tail ih => simp [name, ih]
  | @cons place key value rest text texts name first tail ih =>
    have same : text = attributeForm (denote scripts depth) key value := by
      cases value with
      | element e =>
        obtain ⟨inner, written, rfl⟩ := first
        rw [attributeForm, means _ _ _ written]
      | data => exact first
    simp [name, ih, same]

theorem childTexts_eq {depth : Nat} {place : Option Nat} {items : List Element}
    {texts : List String} (h : ChildTexts shown depth place items texts) :
    texts = items.map (denote scripts depth) := by
  induction h with
  | nil => rfl
  | cons first tail ih => rw [List.map_cons, means _ _ _ first, ih]

theorem formText_eq {depth : Nat} {v : View} {text : String} (h : FormText shown depth v text) :
    text = form (denote scripts) depth v.element := by
  obtain ⟨extra, children, extraTexts, childTexts, rfl⟩ := h
  rw [form, extraTexts_eq means extraTexts, childTexts_eq means childTexts]
  rfl

end

end DesignMarkup.Markup
