import DesignMarkup.Proofs.Layer.Own
import DesignMarkup.Proofs.Layer.Path
/-!
A run that drops hidden layers against one that keeps them. The tree of the first is the tree of the
second without the elements of hidden layers, and with all that is below these. What is left is not
changed by this.
-/
namespace DesignMarkup

namespace Config

def keepHidden (c : Config) : Config := { c with dropInvisible := false }

def dropHidden (c : Config) : Config := { c with dropInvisible := true }

theorem keeps_keepHidden (c : Config) (l : Layer) : c.keepHidden.keeps l = true := Bool.or_true _

theorem keeps_dropHidden (c : Config) (l : Layer) : c.dropHidden.keeps l = l.visible :=
  Bool.or_false _

end Config

namespace Layer

mutual

def cutHidden (c : Config) : Layer → Element → Element
  | l@{ children, .. }, e =>
    if l.opens c then e.withChildren (cutHiddenOf c children e.children) else e

def cutHiddenOf (c : Config) : List Layer → List Element → List Element
  | l :: layers, e :: elements =>
    if l.visible then cutHidden c l e :: cutHiddenOf c layers elements
    else cutHiddenOf c layers elements
  | _, _ => []

end

/-- The path leads to a layer, and to no hidden one below the first. -/
def visibleAlong : Layer → List Nat → Bool
  | _, [] => true
  | l, i :: path => l.children[i]?.any fun child => child.visible && child.visibleAlong path

theorem cutHidden_eq (c : Config) (l : Layer) (e : Element) :
    l.cutHidden c e =
      if l.opens c then e.withChildren (cutHiddenOf c l.children e.children) else e := by
  cases l
  rw [cutHidden]

theorem cutHiddenOf_map (c : Config) (element : Layer → Element) (layers : List Layer) :
    cutHiddenOf c layers (layers.map element) =
      (layers.filter (·.visible)).map fun l => l.cutHidden c (element l) := by
  induction layers with
  | nil => rfl
  | cons l layers ih =>
    rw [List.map_cons, cutHiddenOf, ih]
    cases shows : l.visible <;> simp [shows]

/-- What is dropped has no say in what a layer is emitted as. -/
theorem emit_own_dropHidden (c : Config) (parent : Option ParentFrame) (l : Layer) :
    (l.emit c.dropHidden parent).tree.own = (l.emit c.keepHidden parent).tree.own := by
  have form : l.form c.dropHidden = l.form c.keepHidden := rfl
  rw [emit_own, emit_own, form]

theorem own_of_opens {c : Config} (parent : Option ParentFrame) {l : Layer} (opened : l.opens c) :
    (l.emit c parent).tree.own = (l.emit c parent).tree.withChildren [] := by
  rw [emit_eq, (opens_iff c l).1 opened]
  rfl

theorem emit_cutHidden (c : Config) (parent : Option ParentFrame) (l : Layer) :
    (l.emit c.dropHidden parent).tree = l.cutHidden c (l.emit c.keepHidden parent).tree := by
  induction l using induction_below generalizing parent with
  | step l ih =>
    have own := l.emit_own_dropHidden c parent
    rw [cutHidden_eq]
    by_cases opened : l.opens c
    · rw [if_pos opened]
      have all : (l.emit c.keepHidden parent).tree.children =
          l.children.map fun child => (child.emit c.keepHidden (ParentFrame.of? l)).tree := by
        rw [emit_children c.keepHidden parent opened,
          List.filter_eq_self.2 fun child _ => c.keeps_keepHidden child]
      have visible : l.children.filter c.dropHidden.keeps = l.children.filter (·.visible) :=
        congrArg (List.filter · l.children) (funext c.keeps_dropHidden)
      refine Element.eq_of_own (own.trans (own_of_opens (c := c.keepHidden) parent opened)) ?_
      rw [emit_children c.dropHidden parent opened, visible, all, cutHiddenOf_map]
      exact List.map_congr_left fun child member => ih child (List.mem_filter.1 member).1 _
    · have leaf (d : Config) (same : l.opens d = l.opens c) :
          (l.emit d parent).tree.children = [] := by
        rw [emit_children_shown, shown, same, if_neg opened, List.map_nil]
      rw [if_neg opened]
      exact Element.eq_of_own own ((leaf c.dropHidden rfl).trans (leaf c.keepHidden rfl).symm)

theorem emittedAt?_own (c : Config) (parent : Option ParentFrame) (l : Layer) (path : List Nat) :
    (l.emittedAt? c.dropHidden parent path).map Element.own =
      if l.visibleAlong path then (l.emittedAt? c.keepHidden parent path).map Element.own
      else none := by
  induction path generalizing l parent with
  | nil => exact congrArg some (l.emit_own_dropHidden c parent)
  | cons i path ih =>
    rw [emittedAt?, emittedAt?, visibleAlong]
    have same : l.opens c.dropHidden = l.opens c.keepHidden := rfl
    rw [same]
    by_cases opened : l.opens c.keepHidden
    · rw [if_pos opened, if_pos opened]
      cases l.children[i]? with
      | none => rfl
      | some child =>
        rw [Option.filter_some_pos (c.keeps_keepHidden child), Option.bind_some, Option.any_some]
        cases shows : child.visible with
        | true =>
          rw [Option.filter_some_pos ((c.keeps_dropHidden child).trans shows), Option.bind_some, ih,
            Bool.true_and]
        | false =>
          rw [Option.filter_some_neg ((c.keeps_dropHidden child).trans shows)]
          rfl
    · rw [if_neg opened, if_neg opened]
      exact (ite_self none).symm

end Layer

/-- To drop hidden layers is to cut their elements out of the tree in which they are kept. The root
keeps its element, and so does every visible layer with no hidden one between it and the root: nothing
of the element changes but its children. Another layer has no element. -/
theorem hidden_layers_only_cut (c : Config) (root : Layer) :
    (transform c.dropHidden root).tree = root.cutHidden c (transform c.keepHidden root).tree ∧
    ∀ path, (root.elementOf? c.dropHidden path).map Element.own =
      if root.visibleAlong path then (root.elementOf? c.keepHidden path).map Element.own
      else none := by
  refine ⟨Layer.emit_cutHidden c none root, fun path => ?_⟩
  unfold Layer.elementOf? transform
  rw [Layer.place?_bind, Layer.place?_bind, Layer.emittedAt?_own]

end DesignMarkup
