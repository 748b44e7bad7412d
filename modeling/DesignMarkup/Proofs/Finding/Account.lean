import DesignMarkup.Proofs.Import.Conflict
import DesignMarkup.Proofs.Layer.Emitted
import DesignMarkup.Proofs.Style.Background
/-!
The findings of a run, listed: what the emitted layers have to tell of themselves, in their order, and
then the warnings about components with both import kinds. Styles have nothing to tell.
-/
namespace DesignMarkup

namespace Layer

/-- Why no element can be made of the layer: it was recovered and not read, or it has no place.
Text needs none. -/
def defect? (l : Layer) : Option String :=
  match l.fault with
  | some detail => some ("malformed node: " ++ detail)
  | none => if l.isText || l.bounds.isSome then none else some "missing absoluteBoundingBox"

def isAsset (c : Config) (l : Layer) : Bool :=
  match l.form c with
  | .asset _ => true
  | _ => false

def ownFindings (c : Config) (l : Layer) : List Finding :=
  if l.id = "" then []
  else
    match l.defect? with
    | some detail => [.schemaViolation l.id detail]
    | none =>
      if l.isAsset c && !l.children.isEmpty then [.flattenedChildren l.id l.children.length] else []

theorem mem_ownFindings {c : Config} {l : Layer} {f : Finding} :
    f ∈ l.ownFindings c ↔ l.id ≠ "" ∧
      ((∃ detail, l.defect? = some detail ∧ f = .schemaViolation l.id detail) ∨
        l.defect? = none ∧ l.isAsset c ∧ l.children ≠ [] ∧
          f = .flattenedChildren l.id l.children.length) := by
  unfold ownFindings
  by_cases named : l.id = ""
  · simp [named]
  · cases l.defect? with
    | some detail => simp [named]
    | none => cases l.isAsset c <;> cases l.children <;> simp [named]

theorem ownFindings_nodeIds {c : Config} {l : Layer} {f : Finding} (own : f ∈ l.ownFindings c) :
    f.nodeIds = [l.id] := by
  rcases (mem_ownFindings.1 own).2 with ⟨detail, _, rfl⟩ | ⟨_, _, _, rfl⟩
  · rfl
  · rfl

theorem placeholder_ownFindings (c : Config) {l : Layer} {detail : String} (named : l.id ≠ "")
    (defect : l.defect? = some detail) : l.ownFindings c = [.schemaViolation l.id detail] := by
  simp [ownFindings, named, defect]

theorem defect?_isSome (l : Layer) :
    l.defect?.isSome ↔ l.fault.isSome ∨ l.isText = false ∧ l.bounds = none := by
  unfold defect?
  cases l.fault <;> cases l.isText <;> cases l.bounds <;> simp

theorem form_placeholder_iff {c : Config} {l : Layer} {detail : String} :
    l.form c = .placeholder detail ↔ l.defect? = some detail := by
  unfold form defect?
  cases l.fault with
  | some => simp
  | none =>
    by_cases text : l.isText
    · simp [text]
    · cases l.bounds <;> cases l.instanceOf?.bind c.mapping? <;> cases l.assetUrl? <;> simp [text]

theorem collisions_eq_nil (l : Layer) (parent : Option ParentFrame) (target : StyleTarget) :
    l.collisions parent target = [] := by
  rw [collisions, style_collision]
  rfl

theorem defect?_eq_none {c : Config} {l : Layer} {form : Form} (hasForm : l.form c = form)
    (sound : ∀ detail, form ≠ .placeholder detail) : l.defect? = none := by
  subst hasForm
  exact Option.eq_none_iff_forall_ne_some.2 fun detail defect =>
    sound detail (form_placeholder_iff.2 defect)

theorem shown_eq_nil {c : Config} {l : Layer} {form : Form} (hasForm : l.form c = form)
    (closed : form ≠ .container) : l.shown c = [] := by
  subst hasForm
  exact if_neg (mt (opens_iff c l).1 closed)

/-- A layer tells what it has to tell before the layers below it do. -/
theorem emit_findings_step (c : Config) (parent : Option ParentFrame) (l : Layer) :
    (l.emit c parent).findings = l.ownFindings c ++
      (l.shown c).flatMap fun child => (child.emit c (ParentFrame.of? l)).findings := by
  rw [emit_eq]
  cases hasForm : l.form c with
  | placeholder detail =>
    have defect := form_placeholder_iff.1 hasForm
    have closed : l.shown c = [] := shown_eq_nil hasForm (by simp)
    simp [emitPlaceholder, report, ownFindings, defect, closed]
  | text =>
    have sound : l.defect? = none := defect?_eq_none hasForm (by simp)
    have closed : l.shown c = [] := shown_eq_nil hasForm (by simp)
    simp [emitText, collisions_eq_nil, ownFindings, isAsset, hasForm, sound, closed]
  | component m =>
    have sound : l.defect? = none := defect?_eq_none hasForm (by simp)
    have closed : l.shown c = [] := shown_eq_nil hasForm (by simp)
    simp [emitComponent, collisions_eq_nil, ownFindings, isAsset, hasForm, sound, closed]
  | asset url =>
    have sound : l.defect? = none := defect?_eq_none hasForm (by simp)
    have closed : l.shown c = [] := shown_eq_nil hasForm (by simp)
    by_cases leaf : l.children.isEmpty <;>
      simp [emitAsset, collisions_eq_nil, report, ownFindings, isAsset, hasForm, sound, closed, leaf]
  | container =>
    have sound : l.defect? = none := defect?_eq_none hasForm (by simp)
    have opened : l.shown c = l.children.filter c.keeps := if_pos ((opens_iff c l).2 hasForm)
    simp [emitContainer, collisions_eq_nil, ownFindings, isAsset, hasForm, sound, opened,
      List.flatMap_map]

theorem emit_findings (c : Config) (parent : Option ParentFrame) (l : Layer) :
    (l.emit c parent).findings = (l.emitted c).flatMap (ownFindings c) := by
  induction l using induction_below generalizing parent with
  | step l ih =>
    have below : ∀ child ∈ l.shown c, (child.emit c (ParentFrame.of? l)).findings =
        (child.emitted c).flatMap (ownFindings c) :=
      fun child shown => ih child (mem_children_of_mem_shown shown) _
    rw [emit_findings_step, emitted_eq, List.flatMap_cons, List.flatMap_assoc,
      List.flatMap_congr below]

end Layer

theorem transform_findings (c : Config) (root : Layer) :
    (transform c root).findings = (root.emitted c).flatMap (Layer.ownFindings c) ++
      (identities (root.claims c)).filterMap (conflictWarning? (root.claims c)) := by
  rw [← conflicts_eq, ← Layer.emit_claims c none root, ← Layer.emit_findings c none root]
  rfl

theorem finding_of_own {c : Config} {root l : Layer} {f : Finding} (emitted : l ∈ root.emitted c)
    (own : f ∈ l.ownFindings c) : f ∈ (transform c root).findings := by
  rw [transform_findings]
  exact List.mem_append_left _ (List.mem_flatMap.2 ⟨l, emitted, own⟩)

theorem finding_origin {c : Config} {root : Layer} {f : Finding}
    (member : f ∈ (transform c root).findings) :
    (∃ l ∈ root.emitted c, f ∈ l.ownFindings c) ∨
      ∃ key, Disputed (root.claims c) key ∧ f.Warns (root.claims c) key := by
  rw [transform_findings] at member
  rcases List.mem_append.1 member with own | warning
  · exact .inl (List.mem_flatMap.1 own)
  · obtain ⟨key, _, told⟩ := List.mem_filterMap.1 warning
    exact .inr ⟨key, conflictWarning?_isSome.1 (by rw [told]; rfl), conflictWarning?_warns told⟩

end DesignMarkup
