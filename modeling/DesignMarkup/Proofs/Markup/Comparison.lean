import DesignMarkup.Markup.Traversal
import DesignMarkup.Proofs.Markup.Walk
/-!
Two renderings side by side. A relation that goes through steps (`Congruence`) and holds between two
overrides wherever they are used holds between the renderings with them. Equality is such a relation,
and so is that a rendering goes on as another one that comes to an end (`Extends`).
-/
namespace DesignMarkup.Markup
variable {Memory : Type}

structure Congruence (alike : ∀ {α : Type}, Rendering Memory α → Rendering Memory α → Prop) :
    Prop where
  refl : ∀ {α : Type} (m : Rendering Memory α), alike m m
  bind : ∀ {α β : Type} {m m' : Rendering Memory α} {f f' : α → Rendering Memory β},
    alike m m' → (∀ a, alike (f a) (f' a)) → alike (m >>= f) (m' >>= f')

theorem eq_congruence : @Congruence Memory (fun m m' => m = m') where
  refl _ := rfl
  bind same next := by
    rw [same, funext next]

/-- Where the first rendering has a result, the other one has it too, with the same session. -/
def Extends {α : Type} (m m' : Rendering Memory α) : Prop :=
  ∀ s a t, perform m s = (some a, t) → perform m' s = (some a, t)

theorem extends_congruence : @Congruence Memory Extends where
  refl _ := fun _ _ _ ran => ran
  bind {_ _ m m' f f'} first next := by
    intro s b u ran
    rw [perform_bind] at ran ⊢
    split at ran
    · rename_i a t middle
      rw [first s a t middle]
      exact next a t b u ran
    · exact nomatch ran

theorem Covered.mono {known wider : View → Prop} (le : ∀ v, known v → wider v)
    {place : Option Nat} {elements : List Element} (covered : Covered known place elements) :
    Covered wider place elements :=
  fun i e found => le _ (covered i e found)

section
variable {alike : ∀ {α : Type}, Rendering Memory α → Rendering Memory α → Prop}
  {known : View → Prop} {override override' : Override Memory}

mutual

theorem render_alike (congruence : @Congruence Memory alike)
    (each : ∀ v, known v → alike (override v) (override' v)) (depth : Nat) (place : Option Nat) :
    ∀ e, Covered known place e.visit →
    alike (render override depth place e) (render override' depth place e)
  | ⟨_, _, _, _, attributes, content, _, _, _, _, _⟩, covered => by
    rw [Element.visit_eq] at covered
    rw [render, render]
    refine congruence.bind (each _ covered.head) fun output => ?_
    cases output with
    | some output => exact congruence.refl _
    | none =>
      have inside := covered.tail.right
      simp only [Option.map_map, Function.comp_def] at inside
      refine congruence.bind (renderAttributes_alike congruence each depth _ _ covered.tail.left)
        fun _ => ?_
      exact congruence.bind (renderContent_alike congruence each (depth + 1) _ _ inside) fun _ =>
        congruence.refl _

theorem renderAttributes_alike (congruence : @Congruence Memory alike)
    (each : ∀ v, known v → alike (override v) (override' v)) (depth : Nat) (place : Option Nat) :
    ∀ a : Attributes,
    Covered known place (Element.visitAttributes a) →
    alike (renderAttributes override depth place a) (renderAttributes override' depth place a)
  | ⟨_, _, _, extra⟩, covered => by
    rw [Element.visitAttributes] at covered
    rw [renderAttributes, renderAttributes]
    exact renderExtra_alike congruence each depth place extra covered

theorem renderExtra_alike (congruence : @Congruence Memory alike)
    (each : ∀ v, known v → alike (override v) (override' v)) (depth : Nat) (place : Option Nat) :
    ∀ extra, Covered known place (Element.visitExtra extra) →
    alike (renderExtra override depth place extra) (renderExtra override' depth place extra)
  | [], _ => by
    rw [renderExtra, renderExtra]
    exact congruence.refl _
  | (key, value) :: rest, covered => by
    rw [Element.visitExtra] at covered
    rw [renderExtra, renderExtra]
    split
    · refine congruence.bind (renderAttribute_alike congruence each depth place key value covered.left)
        fun _ => ?_
      exact congruence.bind (renderExtra_alike congruence each depth _ rest covered.right) fun _ =>
        congruence.refl _
    · exact renderExtra_alike congruence each depth _ rest covered.right

theorem renderAttribute_alike (congruence : @Congruence Memory alike)
    (each : ∀ v, known v → alike (override v) (override' v)) (depth : Nat) (place : Option Nat)
    (key : String) :
    ∀ a, Covered known place (Element.visitAttribute a) →
    alike (renderAttribute override depth place key a) (renderAttribute override' depth place key a)
  | .element e, covered => by
    rw [Element.visitAttribute] at covered
    rw [renderAttribute, renderAttribute]
    exact congruence.bind (render_alike congruence each depth place e covered) fun _ =>
      congruence.refl _
  | .data _, _ => by
    rw [renderAttribute, renderAttribute]
    exact congruence.refl _

theorem renderContent_alike (congruence : @Congruence Memory alike)
    (each : ∀ v, known v → alike (override v) (override' v)) (depth : Nat) (place : Option Nat) :
    ∀ c, Covered known place (Element.visitContent c) →
    alike (renderContent override depth place c) (renderContent override' depth place c)
  | .children items, covered => by
    rw [Element.visitContent] at covered
    rw [renderContent, renderContent]
    exact renderAll_alike congruence each depth place items covered
  | .text _, _ => by
    rw [renderContent, renderContent]
    exact congruence.refl _
  | .asset _, _ => by
    rw [renderContent, renderContent]
    exact congruence.refl _

theorem renderAll_alike (congruence : @Congruence Memory alike)
    (each : ∀ v, known v → alike (override v) (override' v)) (depth : Nat) (place : Option Nat) :
    ∀ items, Covered known place (Element.visitAll items) →
    alike (renderAll override depth place items) (renderAll override' depth place items)
  | [], _ => by
    rw [renderAll, renderAll]
    exact congruence.refl _
  | e :: rest, covered => by
    rw [Element.visitAll] at covered
    rw [renderAll, renderAll]
    refine congruence.bind (render_alike congruence each depth place e covered.left) fun _ => ?_
    exact congruence.bind (renderAll_alike congruence each depth _ rest covered.right) fun _ =>
      congruence.refl _

end

theorem renderDefault_alike (congruence : @Congruence Memory alike)
    (each : ∀ v, known v → alike (override v) (override' v)) (depth : Nat) (v : View)
    (above : ∀ w, v.Above w → known w) :
    alike (renderDefault override depth v) (renderDefault override' depth v) := by
  have covered := (above_covers v).mono above
  have inside := covered.right
  simp only [Option.map_map, Function.comp_def] at inside
  refine congruence.bind (renderAttributes_alike congruence each depth _ _ covered.left) fun _ => ?_
  refine congruence.bind (renderContent_alike congruence each (depth + 1) _ _ inside) fun _ => ?_
  exact congruence.refl _

theorem answer_alike (congruence : @Congruence Memory alike)
    (each : ∀ v, known v → alike (override v) (override' v)) (run : Run) (v : View)
    (above : ∀ w, v.Above w → known w) :
    alike (answer override run v) (answer override' run v) :=
  congruence.bind (congruence.refl _) fun _ => renderDefault_alike congruence each 0 v above

end

section
variable {alike : ∀ {α : Type}, Rendering Memory α → Rendering Memory α → Prop}
  (congruence : @Congruence Memory alike)
include congruence

theorem runDelegation_alike {generate generate' : View → Rendering Memory String}
    (d : Delegation Memory) (answers : ∀ v, d.Asks v → alike (generate v) (generate' v)) :
    alike (runDelegation generate d) (runDelegation generate' d) := by
  induction d with
  | finish | fail | panic => exact congruence.refl _
  | generate view next ih =>
    refine congruence.bind (answers view (.now view next)) fun text => ?_
    exact ih text fun v asks => answers v (.generate text asks)
  | load next ih =>
    refine congruence.bind (congruence.refl _) fun s => ?_
    exact ih s.memory fun v asks => answers v (.load s.memory asks)
  | store memory next ih =>
    refine congruence.bind (congruence.refl _) fun _ => ?_
    exact ih fun v asks => answers v (.store memory asks)

theorem overrideBy_alike (registry : Registry Memory) {inner inner' : Option (Override Memory)}
    (v : View) (invokes : ∀ hook, v.element.template = some hook →
      alike (invoke registry inner ⟨hook, v⟩) (invoke registry inner' ⟨hook, v⟩)) :
    alike (overrideBy registry inner v) (overrideBy registry inner' v) := by
  unfold overrideBy
  cases bound : v.element.template with
  | none => exact congruence.refl _
  | some hook =>
    refine congruence.bind (congruence.refl _) fun s => ?_
    cases s.recorded? v.key? with
    | some output => exact congruence.refl _
    | none =>
      refine congruence.bind (congruence.refl _) fun _ => ?_
      exact congruence.bind (invokes hook bound) fun _ => congruence.refl _

end

/-- A rendering that comes to an end within a nesting does the same within a greater one. -/
theorem overrideWithin_extends (registry : Registry Memory) (nesting : Nat) (v : View) :
    Extends (overrideWithin registry nesting v) (overrideWithin registry (nesting + 1) v) := by
  induction nesting generalizing v with
  | zero =>
    refine overrideBy_alike extends_congruence registry v fun hook _ => ?_
    intro s a t ran
    unfold invoke at ran ⊢
    cases registered : registry.get? hook with
    | none => rwa [registered] at ran
    | some _ =>
      rw [registered] at ran
      exact nomatch ran
  | succ nesting ih =>
    refine overrideBy_alike extends_congruence registry v fun hook _ => ?_
    unfold invoke
    cases registry.get? hook with
    | none => exact extends_congruence.refl _
    | some hook =>
      refine runDelegation_alike extends_congruence _ fun w _ => ?_
      exact answer_alike extends_congruence (fun u (_ : True) => ih u) _ w fun _ _ => trivial

theorem rendering_extends (registry : Registry Memory) {nesting deeper : Nat} (le : nesting ≤ deeper)
    (depth : Nat) (tree : Frozen) (memory : Memory) {markup : String} {session : Session Memory}
    (ran : rendering registry nesting depth tree memory = (some markup, session)) :
    rendering registry deeper depth tree memory = (some markup, session) := by
  induction le with
  | refl => exact ran
  | step _ ih =>
    exact render_alike extends_congruence (fun v (_ : True) => overrideWithin_extends registry _ v)
      depth (some 0) tree.element (fun _ _ _ => trivial) _ _ _ ih

end DesignMarkup.Markup
