import DesignMarkup.Proofs.Layer.PaintOrder
import DesignMarkup.Proofs.Lists
/-!
Layers and elements by their paths of child indices. Each element of a transformed design stands at the
place of the layer that it is emitted from. If one layer is replaced, the layers at all paths apart from
its own stay what they are, and so do the elements that they are emitted as.
-/
namespace DesignMarkup

def Apart (p q : List Nat) : Prop := ¬ p <+: q ∧ ¬ q <+: p

theorem not_apart_nil (q : List Nat) : ¬ Apart [] q := fun apart => apart.1 List.nil_prefix

theorem apart_cons {i j : Nat} {p q : List Nat} :
    Apart (i :: p) (j :: q) ↔ i ≠ j ∨ Apart p q := by
  unfold Apart
  rw [List.cons_prefix_cons, List.cons_prefix_cons]
  grind

theorem not_apart_of_nil (p : List Nat) : ¬ Apart p [] := fun apart => apart.2 List.nil_prefix

def Element.below? : Element → List Nat → Option Element
  | e, [] => some e
  | e, i :: path => e.children[i]?.bind (below? · path)

namespace Layer

def below? : Layer → List Nat → Option Layer
  | l, [] => some l
  | l, i :: path => l.children[i]?.bind (below? · path)

def replaceAt : Layer → List Nat → Layer → Layer
  | _, [], new => new
  | l, i :: path, new => { l with children := l.children.modify i (replaceAt · path new) }

theorem below?_replaceAt {p q : List Nat} (apart : Apart p q) (l new : Layer) :
    (l.replaceAt p new).below? q = l.below? q := by
  induction p generalizing q l with
  | nil => exact absurd apart (not_apart_nil q)
  | cons i p ih =>
    cases q with
    | nil => exact absurd apart (not_apart_of_nil _)
    | cons j q =>
      simp only [replaceAt, below?, List.getElem?_modify]
      split
      · rename_i same
        have deeper : Apart p q := (apart_cons.1 apart).resolve_left (not_not_intro same)
        cases l.children[j]? with
        | none => rfl
        | some child => exact ih deeper child
      · cases l.children[j]? <;> rfl

/-- The path of the element of a layer, if the layer is emitted: layers that are not kept take no
place among its siblings. -/
def place? (c : Config) : Layer → List Nat → Option (List Nat)
  | _, [] => some []
  | l, i :: path =>
    if l.opens c then
      (l.children[i]?.filter c.keeps).bind fun child =>
        (place? c child path).map ((l.children.take i).countP c.keeps :: ·)
    else none

def elementOf? (c : Config) (root : Layer) (path : List Nat) : Option Element :=
  (root.place? c path).bind (transform c root).tree.below?

def emittedAt? (c : Config) : Option ParentFrame → Layer → List Nat → Option Element
  | parent, l, [] => some (l.emit c parent).tree
  | _, l, i :: path =>
    if l.opens c then
      (l.children[i]?.filter c.keeps).bind (emittedAt? c (ParentFrame.of? l) · path)
    else none

theorem emit_children (c : Config) (parent : Option ParentFrame) {l : Layer} (opened : l.opens c) :
    (l.emit c parent).tree.children =
      (l.children.filter c.keeps).map fun child => (child.emit c (ParentFrame.of? l)).tree := by
  rw [emit_eq, (opens_iff c l).1 opened]
  simp [emitContainer, Element.withChildren, Element.children, Content.items]

theorem place?_bind (c : Config) (parent : Option ParentFrame) (l : Layer) (path : List Nat) :
    (l.place? c path).bind (l.emit c parent).tree.below? = l.emittedAt? c parent path := by
  induction path generalizing l parent with
  | nil => rfl
  | cons i path ih =>
    rw [place?, emittedAt?]
    by_cases opened : l.opens c
    · rw [if_pos opened, if_pos opened]
      cases found : l.children[i]?.filter c.keeps with
      | none => rfl
      | some child =>
        obtain ⟨here, kept⟩ := Option.filter_eq_some_iff.1 found
        have element : (l.emit c parent).tree.children[(l.children.take i).countP c.keeps]? =
            some (child.emit c (ParentFrame.of? l)).tree := by
          rw [emit_children c parent opened, List.getElem?_map, getElem?_filter_countP here kept]
          rfl
        rw [Option.bind_some, Option.bind_some, ← ih, Option.bind_map]
        refine Option.bind_congr fun place _ => ?_
        rw [Function.comp_apply, Element.below?, element, Option.bind_some]
    · rw [if_neg opened, if_neg opened]
      rfl

theorem emittedAt?_emits {c : Config} {parent : Option ParentFrame} {l : Layer} {path : List Nat}
    {e : Element} (emitted : l.emittedAt? c parent path = some e) :
    ∃ x frame, l.below? path = some x ∧ e = (x.emit c frame).tree := by
  induction path generalizing l parent with
  | nil => exact ⟨l, parent, rfl, (Option.some.inj emitted).symm⟩
  | cons i path ih =>
    rw [emittedAt?, Option.ite_none_right_eq_some] at emitted
    obtain ⟨child, found, below⟩ := Option.bind_eq_some_iff.1 emitted.2
    obtain ⟨x, frame, at_, element⟩ := ih below
    refine ⟨x, frame, ?_, element⟩
    rw [below?, (Option.filter_eq_some_iff.1 found).1, Option.bind_some, at_]

theorem mem_shown {c : Config} {l child : Layer} :
    child ∈ l.shown c ↔ l.opens c = true ∧ child ∈ l.children ∧ c.keeps child = true := by
  unfold shown
  by_cases opened : l.opens c
  · simp [opened]
  · simp [opened]

theorem elementOf?_emits {c : Config} {root : Layer} {path : List Nat} {e : Element}
    (emitted : elementOf? c root path = some e) :
    ∃ l frame, root.below? path = some l ∧ e = (l.emit c frame).tree := by
  unfold elementOf? transform at emitted
  rw [place?_bind] at emitted
  exact emittedAt?_emits emitted

theorem opens_replaceAt (c : Config) (l : Layer) (i : Nat) (path : List Nat) (new : Layer) :
    (l.replaceAt (i :: path) new).opens c = l.opens c := by
  -- A layer is emitted as an asset for what is below it only in so far as there is anything.
  have empty : (l.replaceAt (i :: path) new).children.isEmpty = l.children.isEmpty := by
    rw [Bool.eq_iff_iff, List.isEmpty_iff, List.isEmpty_iff, replaceAt, List.modify_eq_nil_iff]
  have asset : (l.replaceAt (i :: path) new).assetUrl? = l.assetUrl? := by
    unfold assetUrl?
    rw [empty]
    rfl
  unfold opens
  rw [asset]
  rfl

theorem emittedAt?_replaceAt (c : Config) (parent : Option ParentFrame) {p q : List Nat}
    (apart : Apart p q) (l new : Layer) :
    (l.replaceAt p new).emittedAt? c parent q = l.emittedAt? c parent q := by
  induction p generalizing q l parent with
  | nil => exact absurd apart (not_apart_nil q)
  | cons i p ih =>
    cases q with
    | nil => exact absurd apart (not_apart_of_nil _)
    | cons j q =>
      have frame : ParentFrame.of? (l.replaceAt (i :: p) new) = ParentFrame.of? l := rfl
      rw [emittedAt?, emittedAt?, opens_replaceAt, frame]
      simp only [replaceAt, List.getElem?_modify]
      by_cases same : i = j
      · have deeper : Apart p q := (apart_cons.1 apart).resolve_left (not_not_intro same)
        -- The child on the way is not the one that is replaced, so it is kept as before.
        obtain ⟨k, rest, rfl⟩ : ∃ k rest, p = k :: rest :=
          List.exists_cons_of_ne_nil fun none => not_apart_nil q (none ▸ deeper)
        simp only [if_pos same]
        cases l.children[j]? with
        | none => rfl
        | some child =>
          have keeps : c.keeps (child.replaceAt (k :: rest) new) = c.keeps child := rfl
          by_cases kept : c.keeps child
          · simp only [Option.map_eq_map, Option.map_some, Option.filter, keeps, kept, if_true,
              Option.bind_some, ih _ deeper child]
          · simp [Option.filter, keeps, kept]
      · simp only [if_neg same, id_map']

theorem elementOf?_replaceAt (c : Config) {p q : List Nat} (apart : Apart p q) (root new : Layer) :
    elementOf? c (root.replaceAt p new) q = elementOf? c root q := by
  unfold elementOf? transform
  rw [place?_bind, place?_bind, emittedAt?_replaceAt c none apart]

theorem emit_children_shown (c : Config) (parent : Option ParentFrame) (l : Layer) :
    (l.emit c parent).tree.children =
      (l.shown c).map fun child => (child.emit c (ParentFrame.of? l)).tree := by
  by_cases opened : l.opens c
  · rw [emit_children c parent opened, shown, if_pos opened]
  · have none : (l.emit c parent).tree.branches = [] := by
      rw [emit_branches, shown, if_neg opened, List.map_nil]
    rw [shown, if_neg opened, List.map_nil]
    exact (List.append_eq_nil_iff.1 none).2

theorem place?_append (c : Config) (root : Layer) (p q : List Nat) :
    root.place? c (p ++ q) = (root.place? c p).bind fun place =>
      ((root.below? p).bind (place? c · q)).map (place ++ ·) := by
  induction p generalizing root with
  | nil =>
    rw [List.nil_append, place?, below?, Option.bind_some, Option.bind_some]
    exact Option.map_id'.symm
  | cons i p ih =>
    rw [List.cons_append, place?, place?]
    by_cases opened : root.opens c
    · rw [if_pos opened, if_pos opened]
      cases found : root.children[i]?.filter c.keeps with
      | none => rfl
      | some child =>
        have here := (Option.filter_eq_some_iff.1 found).1
        simp only [Option.bind_some, ih, below?, here]
        cases place? c child p with
        | none => rfl
        | some place => cases (child.below? p).bind (place? c · q) <;> rfl
    · rw [if_neg opened, if_neg opened]
      rfl

theorem child_of_shown {c : Config} {l child : Layer} {i : Nat}
    (shownChild : (l.shown c)[i]? = some child) :
    ∃ j, l.children[j]? = some child ∧
      ∀ path, l.place? c (j :: path) = (child.place? c path).map (i :: ·) := by
  have opened : l.opens c = true := (mem_shown.1 (List.mem_of_getElem? shownChild)).1
  rw [shown, if_pos opened] at shownChild
  obtain ⟨j, here, kept, before⟩ := getElem?_of_filter shownChild
  refine ⟨j, here, fun path => ?_⟩
  rw [place?, if_pos opened, here, Option.filter_some_pos kept, Option.bind_some, before]

/-- An element stands at the place of a layer, and is the one that this layer is emitted as. -/
theorem layer_of_below? {c : Config} {parent : Option ParentFrame} {root : Layer} {place : List Nat}
    {e : Element} (found : (root.emit c parent).tree.below? place = some e) :
    ∃ path l frame, root.place? c path = some place ∧ root.below? path = some l ∧
      e = (l.emit c frame).tree := by
  induction place generalizing root parent with
  | nil => exact ⟨[], root, parent, rfl, rfl, (Option.some.inj found).symm⟩
  | cons i place ih =>
    rw [Element.below?, emit_children_shown] at found
    obtain ⟨d, here, below⟩ := Option.bind_eq_some_iff.1 found
    rw [List.getElem?_map] at here
    obtain ⟨child, shownChild, rfl⟩ := Option.map_eq_some_iff.1 here
    obtain ⟨path, l, frame, placed, layer, element⟩ := ih below
    obtain ⟨j, at_, places⟩ := child_of_shown shownChild
    refine ⟨j :: path, l, frame, ?_, ?_, element⟩
    · rw [places, placed, Option.map_some]
    · rw [below?, at_, Option.bind_some, layer]

theorem below?_of_mem_visit {c : Config} {parent : Option ParentFrame} {root : Layer} {e : Element}
    (visited : e ∈ (root.emit c parent).tree.visit) :
    ∃ place, (root.emit c parent).tree.below? place = some e := by
  induction root using induction_below generalizing parent with
  | step root ih =>
    rw [Element.visit_eq, List.mem_cons, Element.mem_descendants, emit_branches,
      ← emit_children_shown c parent] at visited
    rcases visited with rfl | ⟨d, child, inside⟩
    · exact ⟨[], rfl⟩
    · obtain ⟨i, here⟩ := List.mem_iff_getElem?.1 child
      rw [emit_children_shown] at child
      obtain ⟨l, shown, rfl⟩ := List.mem_map.1 child
      obtain ⟨place, found⟩ := ih l (mem_children_of_mem_shown shown) inside
      refine ⟨i :: place, ?_⟩
      rw [Element.below?, here, Option.bind_some, found]

end Layer
end DesignMarkup
