import DesignMarkup.Markup.Renderer
import DesignMarkup.Proofs.Markup.CacheSoundness
import DesignMarkup.Proofs.Markup.Comparison
/-!
Renderings with one renderer do not depend on each other, and not on where their trees are in memory.
The table of a tree finds the positions of its own elements and of no others, so that a rendering
with it is one in which elements know their places.
-/
namespace DesignMarkup.Markup
variable {Memory : Type}

theorem mem_idless {tree : Frozen} {n : Nat} :
    n ∈ idless tree ↔ ∃ e, tree.element.visit[n]? = some e ∧ e.id = none := by
  simp only [idless, List.mem_map, List.mem_filter, Prod.exists, List.mk_mem_zipIdx_iff_getElem?,
    Option.isNone_iff_eq_none, exists_eq_right]

namespace Layout
variable (layout : Layout) (tree : Frozen)

theorem lookup_address (ns : List Nat) (n : Nat) :
    (ns.map fun m => (layout.address m, m)).lookup (layout.address n) =
      if n ∈ ns then some n else none := by
  induction ns with
  | nil => rfl
  | cons m rest ih =>
    rw [List.map_cons, List.lookup_cons]
    by_cases same : n = m
    · subst n
      simp
    · have other : (layout.address n == layout.address m) = false := by
        simpa using fun h => same (layout.injective n m h)
      simp only [other, ih, List.mem_cons, same, false_or]

theorem lookup_copy (ns : List Nat) (e : Element) :
    (ns.map fun m => (layout.address m, m)).lookup (layout.copy e) = none := by
  induction ns with
  | nil => rfl
  | cons m rest ih =>
    have other : (layout.copy e == layout.address m) = false := by
      simpa using layout.apart e m
    rw [List.map_cons, List.lookup_cons, other]
    exact ih

theorem lookup_positions (v : View) :
    (layout.positions tree).lookup (layout.addressOf v) = v.place.filter (· ∈ idless tree) := by
  unfold positions addressOf
  cases v.place with
  | none => exact layout.lookup_copy ..
  | some n => simp [layout.lookup_address, Option.filter]

theorem locate_eq (other : Layout) :
    layout.locate (layout.positions tree) = other.locate (other.positions tree) := by
  funext v
  unfold locate
  rw [lookup_positions, lookup_positions]

theorem locate_genuine {v : View} (genuine : v.Genuine tree) :
    layout.locate (layout.positions tree) v = v := by
  unfold locate
  cases hasId : v.element.id with
  | some id => rfl
  | none =>
    have kept : v.place.filter (· ∈ idless tree) = v.place := by
      cases place : v.place with
      | none => rfl
      | some n => simp [Option.filter, mem_idless.2 ⟨_, genuine n place, hasId⟩]
    simp only [lookup_positions, kept]

end Layout

theorem View.Genuine.contains {tree : Frozen} {v w : View} (genuine : v.Genuine tree)
    (inside : v.Contains w) : w.Genuine tree := by
  obtain ⟨n, found⟩ := inside
  obtain ⟨e, there, rfl⟩ := Option.map_eq_some_iff.1 found
  intro k place
  obtain ⟨m, hasPlace, rfl⟩ := Option.map_eq_some_iff.1 place
  exact Element.visit_getElem?_add (genuine m hasPlace) there

/-- Hooks give out a place only with the element that is there. -/
def AsksGenuine (registry : Registry Memory) : Prop :=
  ∀ name hook, registry.get? name = some hook → ∀ tree v w, v.Genuine tree → (hook v).Asks w →
    w.Genuine tree

theorem overrideLocated_eq {registry : Registry Memory} (asks : AsksGenuine registry)
    (layout : Layout) (tree : Frozen) (nesting : Nat) (v : View) (genuine : v.Genuine tree) :
    overrideLocated registry (layout.locate (layout.positions tree)) nesting v =
      overrideWithin registry nesting v := by
  induction nesting generalizing v with
  | zero =>
    rw [overrideLocated, overrideWithin, layout.locate_genuine tree genuine]
  | succ nesting ih =>
    rw [overrideLocated, overrideWithin, layout.locate_genuine tree genuine]
    refine overrideBy_alike eq_congruence registry v fun name _ => ?_
    unfold invoke
    cases registered : registry.get? name with
    | none => rfl
    | some hook =>
      refine runDelegation_alike eq_congruence _ fun w asked => ?_
      have asksGenuine := asks name hook registered tree v w genuine asked
      exact answer_alike eq_congruence (fun u (known : u.Genuine tree) => ih u known) _ w
        fun u above => asksGenuine.contains above.contains

namespace Renderer
variable {registry : Registry Memory} {nesting : Nat} {r : Renderer Memory} {q : Job}

theorem render?_findings {rendered : Rendered} {left : Renderer Memory}
    (ran : r.render? registry nesting q = some (rendered, left)) : left.findings = [] := by
  unfold render? at ran
  split at ran
  · cases ran
    rfl
  · cases ran

theorem run_eq (clean : r.findings = []) (layout : Layout) :
    (r.start q).run registry nesting q =
      (start { memory := r.memory } { q with layout }).run registry nesting { q with layout } := by
  have same : (r.start q).session = (start { memory := r.memory } { q with layout }).session := by
    simp only [start, session, clean]
  have located : q.layout.locate (r.start q).positions =
      layout.locate (start { memory := r.memory } { q with layout }).positions :=
    q.layout.locate_eq q.tree layout
  simp only [run, same, located]

theorem render?_eq (clean : r.findings = []) (layout : Layout) :
    r.render? registry nesting q =
      render? registry nesting { memory := r.memory } { q with layout } := by
  rw [render?, render?, run_eq clean layout]

theorem render?_eq_renderAt? [Inhabited Memory] (asks : AsksGenuine registry) (memory : Memory) :
    (render? registry nesting { memory } q).map (·.1) =
      renderAt? registry nesting q.depth q.tree memory := by
  have root : View.Genuine q.tree ⟨q.tree.element, some 0⟩ := by
    intro k place
    cases place
    simp [Element.visit_eq]
  have same := render_alike eq_congruence (overrideLocated_eq asks q.layout q.tree nesting) q.depth
    (some 0) q.tree.element
    ((contains_covers ⟨q.tree.element, some 0⟩).mono fun v inside => root.contains inside)
  have ran : (start { memory } q).run registry nesting q =
      rendering registry nesting q.depth q.tree memory :=
    congrArg (perform · _) same
  rw [render?, renderAt?, ran]
  rcases rendering registry nesting q.depth q.tree memory with ⟨_ | markup, s⟩ <;> rfl

theorem renderAll?_eq {registry : Registry} {nesting : Nat} (elsewhere : Job → Layout)
    (jobs : List Job) (r : Renderer) (clean : r.findings = []) :
    r.renderAll? registry nesting jobs = jobs.mapM fun q =>
      (render? registry nesting { memory := () } { q with layout := elsewhere q }).map (·.1) := by
  induction jobs generalizing r with
  | nil => rfl
  | cons q rest ih =>
    have fresh : r.render? registry nesting q =
        render? registry nesting { memory := () } { q with layout := elsewhere q } :=
      render?_eq clean (elsewhere q)
    rw [renderAll?, List.mapM_cons, ← fresh]
    cases ran : r.render? registry nesting q with
    | none => rfl
    | some result =>
      obtain ⟨rendered, left⟩ := result
      have others := ih left (render?_findings ran)
      simp only [Option.bind_eq_bind, Option.bind_some, Option.map_some, others]

end Renderer

/-- All renderings of one renderer come out as if each tree had a renderer of its own. -/
theorem renderings_independent (registry : Registry) (nesting : Nat) (jobs : List Job)
    (elsewhere : Job → Layout) :
    Renderer.renderAll? registry nesting { memory := () } jobs =
      jobs.mapM (fun q =>
        (Renderer.render? registry nesting { memory := () } { q with layout := elsewhere q }).map
          (·.1)) ∧
    (AsksGenuine registry →
      Renderer.renderAll? registry nesting { memory := () } jobs =
        jobs.mapM fun q => renderAt? registry nesting q.depth q.tree) := by
  refine ⟨Renderer.renderAll?_eq elsewhere jobs _ rfl, fun asks => ?_⟩
  rw [Renderer.renderAll?_eq Job.layout jobs _ rfl]
  congr 1
  funext q
  exact Renderer.render?_eq_renderAt? asks ()

/-- Two trees with one id in common. The hook on it fails in one of them; the other one has an
element whose hook is not registered. -/
def crossed : Frozen × Frozen where
  fst.element :=
    { ((Element.of "div" "First" "FRAME").withChildren
        [{ Element.of "b" "Star" "FRAME" with template := some "star" }]).withId "c" with
      template := some "fail" }
  fst.sound := by decide
  snd.element :=
    { ((Element.of "p" "Second" "FRAME").withChildren
        [{ (Element.of "i" "Lost" "FRAME").withId "l" with template := some "lost" }]).withId "c" with
      template := some "link" }
  snd.sound := by decide

def crossedHooks : Registry :=
  [("fail", fun _ => .fail "no"),
   ("link", fun v => .generate v fun text => .finish ("<a>" ++ text ++ "</a>")),
   ("star", fun _ => .finish "*")]

theorem crossedHooks_askGenuine : AsksGenuine crossedHooks := by
  intro name hook registered tree v w genuine asks
  simp only [crossedHooks, Dict.get?] at registered
  split at registered
  · cases registered
    cases asks
  split at registered
  · cases registered
    cases asks with
    | now => exact genuine
    | generate _ rest => cases rest
  split at registered
  · cases registered
    cases asks
  · cases registered

/-- Both trees are at the same place in memory. -/
def reused : Layout where
  address := (· + 1)
  copy _ := 0
  injective _ _ := Nat.succ.inj
  apart _ n := (Nat.succ_ne_zero n).symm

theorem crossed_renderings_independent :
    let jobs : List Job := [⟨crossed.1, 0, reused⟩, ⟨crossed.2, 1, reused⟩, ⟨crossed.1, 0, reused⟩]
    let rendered := Renderer.renderAll? crossedHooks 2 { memory := () } jobs
    AsksGenuine crossedHooks ∧
    rendered = jobs.mapM (fun q => renderAt? crossedHooks 2 q.depth q.tree) ∧
    rendered.map (·.map fun r => (r.markup, r.findings.length)) =
      some [("<div>\n  *\n</div>", 1), ("<a><p>\n  <i />\n</p></a>", 1),
        ("<div>\n  *\n</div>", 1)] := by
  intro jobs rendered
  refine ⟨crossedHooks_askGenuine, ?_, by decide +kernel⟩
  exact (renderings_independent crossedHooks 2 jobs Job.layout).2 crossedHooks_askGenuine

end DesignMarkup.Markup
