import DesignMarkup.Import
import DesignMarkup.Proofs.Layer.PaintOrder
/-!
What each element has from its own layer alone is read off the emitted layers, in their order: the
ids of the elements, and what they claim from packages.
-/
namespace DesignMarkup.Layer

section
variable (l : Layer) (tag : String)

theorem bareElement_package : (l.bareElement tag).package = none := by
  unfold bareElement
  split <;> rfl

theorem bareElement_dependencies : (l.bareElement tag).dependencies = .empty := by
  unfold bareElement
  split <;> rfl

end

theorem bareElement_id (l : Layer) (tag : String) : (l.bareElement tag).id = l.caption.id :=
  congrArg Caption.id (l.bareElement_caption tag)

/-- What every element has from its layer alone, a tree has from the emitted layers in their order. -/
theorem visit_flatMap_emit {α : Type} {g : Element → List α} {h : Layer → List α} {c : Config}
    (own : ∀ parent l, g (l.emit c parent).tree = h l) (parent : Option ParentFrame) (l : Layer) :
    (l.emit c parent).tree.visit.flatMap g = (l.emitted c).flatMap h := by
  induction l using induction_below generalizing parent with
  | step l ih =>
    have below : ∀ child ∈ l.shown c,
        (child.emit c (ParentFrame.of? l)).tree.visit.flatMap g = (child.emitted c).flatMap h :=
      fun child shown => ih child (mem_children_of_mem_shown shown) _
    rw [Element.visit_eq, Element.descendants_eq, emit_branches, emitted_eq, List.flatMap_cons,
      List.flatMap_cons, own, List.flatMap_map, List.flatMap_assoc, List.flatMap_assoc,
      List.flatMap_congr below]

/-- The ids of the emitted layers, in their order; an empty id is none. -/
def emittedIds (c : Config) (l : Layer) : List String := (l.emitted c).filterMap (·.caption.id)

theorem emit_ids (c : Config) (parent : Option ParentFrame) (l : Layer) :
    (l.emit c parent).tree.ids = l.emittedIds c := by
  rw [Element.ids, emittedIds, List.filterMap_eq_flatMap_toList, List.filterMap_eq_flatMap_toList]
  refine visit_flatMap_emit (fun parent l => ?_) parent l
  exact congrArg (fun caption => caption.id.toList) (emit_caption c parent l)

theorem id_mem_emittedIds {c : Config} {root l : Layer} (emitted : l ∈ root.emitted c)
    (named : l.id ≠ "") : l.id ∈ root.emittedIds c :=
  List.mem_filterMap.2 ⟨l, emitted, if_neg named⟩

def claim? (c : Config) (l : Layer) : Option Claim :=
  match l.form c with
  | .component m => some ⟨l.caption.id, ⟨m.exportName, m.package, m.isDefault⟩⟩
  | _ => none

def claims (c : Config) (l : Layer) : List Claim := (l.emitted c).filterMap (claim? c)

theorem claim_id_mem {c : Config} {l : Layer} {claim : Claim} (member : claim ∈ l.claims c)
    {id : String} (claimant : claim.id = some id) : id ∈ l.emittedIds c := by
  obtain ⟨x, emitted, claims⟩ := List.mem_filterMap.1 member
  refine List.mem_filterMap.2 ⟨x, emitted, ?_⟩
  unfold claim? at claims
  split at claims
  · obtain rfl := Option.some.inj claims
    exact claimant
  · cases claims

theorem emit_claims (c : Config) (parent : Option ParentFrame) (l : Layer) :
    (l.emit c parent).tree.claims = l.claims c := by
  rw [Element.claims, claims, List.filterMap_eq_flatMap_toList]
  refine visit_flatMap_emit (fun parent l => ?_) parent l
  rw [emit_eq, claim?]
  have bare (tag : String) : (l.bareElement tag).dependencies.entries = [] :=
    congrArg DependencySet.entries (l.bareElement_dependencies tag)
  cases l.form c with
  | placeholder detail => exact congrArg _ (bare "div")
  | text => exact congrArg _ (bare "span")
  | component m =>
    obtain ⟨attributes, content, same, _⟩ := l.emitComponent_tree parent m
    simp only [same, componentBase, Element.withComponent, styledElement, Element.withStyle,
      bareElement_dependencies, bareElement_id, bareElement_tag]
    rfl
  | asset url => exact congrArg _ (bare "img")
  | container => exact congrArg _ (bare "div")

def tagAndPackage (c : Config) (l : Layer) : String × Option String :=
  match l.form c with
  | .placeholder _ => ("div", none)
  | .text => ("span", none)
  | .component m => (m.exportName, some m.package)
  | .asset _ => ("img", none)
  | .container => ("div", none)

theorem emit_tagAndPackage (c : Config) (parent : Option ParentFrame) (l : Layer) :
    ((l.emit c parent).tree.tag, (l.emit c parent).tree.package) = l.tagAndPackage c := by
  have bare (tag : String) : ((l.bareElement tag).tag, (l.bareElement tag).package) = (tag, none) := by
    rw [bareElement_tag, bareElement_package]
  rw [emit_eq, tagAndPackage]
  cases l.form c with
  | placeholder detail => exact bare "div"
  | text => exact bare "span"
  | component m =>
    obtain ⟨attributes, content, same, _⟩ := l.emitComponent_tree parent m
    simp only [same]
    exact congrArg (·, some m.package) (l.bareElement_tag m.exportName)
  | asset url => exact bare "img"
  | container => exact bare "div"

theorem visit_tagAndPackage (c : Config) (parent : Option ParentFrame) (l : Layer) :
    (l.emit c parent).tree.visit.map (fun e => (e.tag, e.package)) =
      (l.emitted c).map (tagAndPackage c) := by
  rw [← List.flatMap_pure_eq_map, ← List.flatMap_pure_eq_map]
  refine visit_flatMap_emit (fun parent l => ?_) parent l
  exact congrArg (pure (f := List)) (emit_tagAndPackage c parent l)

theorem bareElement_template (l : Layer) (tag : String) : (l.bareElement tag).template = none := by
  unfold bareElement
  split <;> rfl

theorem emit_hookless (c : Config) (parent : Option ParentFrame) (l : Layer) :
    ∀ d ∈ (l.emit c parent).tree.visit, d.template = none := by
  have own (parent : Option ParentFrame) (l : Layer) : (l.emit c parent).tree.template = none := by
    rw [emit_eq]
    cases l.form c with
    | placeholder detail => exact l.bareElement_template "div"
    | text => exact l.bareElement_template "span"
    | component m =>
      obtain ⟨attributes, content, same, _⟩ := l.emitComponent_tree parent m
      simp only [same]
      exact l.bareElement_template m.exportName
    | asset url => exact l.bareElement_template "img"
    | container => exact l.bareElement_template "div"
  have hooks : (l.emit c parent).tree.visit.flatMap (·.template.toList) =
      (l.emitted c).flatMap fun _ => [] :=
    visit_flatMap_emit (fun parent l => by rw [own]; rfl) parent l
  intro d inside
  have none := List.flatMap_eq_nil_iff.1 (hooks.trans (List.flatMap_eq_nil_iff.2 fun _ _ => rfl))
  exact Option.toList_eq_nil_iff.1 (none d inside)

end DesignMarkup.Layer
