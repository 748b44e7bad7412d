import DesignMarkup.Proofs.Element.Visit
import DesignMarkup.Proofs.Markup.HookRuns
/-!
How many hooks run in all, if they ask only for what is in their own element, or for copies of it.
The keys bound the runs that have one. An element without an id has no key in a copy, so its hook
runs for every copy of it that is written.
-/
namespace DesignMarkup.Markup
open Element
variable {Memory : Type}

def View.Offers (v w : View) : Prop := v.Contains w ∨ ∃ x, v.Contains x ∧ w = x.copy

def View.all (v : View) : List View :=
  v.element.visit.mapIdx fun n e => ⟨e, v.place.map (· + n)⟩

theorem View.mem_all {v w : View} : w ∈ v.all ↔ v.Contains w := by
  simp only [View.all, List.mem_iff_getElem?, List.getElem?_mapIdx, View.Contains, View.at?]

theorem View.all_map_element (v : View) : v.all.map (·.element) = v.element.visit := by
  rw [View.all, List.mapIdx_eq_zipIdx_map, List.map_map]
  exact List.zipIdx_map_fst 0 v.element.visit

def View.overridden (v : View) : List View := v.all.filter (·.element.template.isSome)

theorem View.mem_overridden {v w : View} :
    w ∈ v.overridden ↔ v.Contains w ∧ w.element.template.isSome := by
  rw [View.overridden, List.mem_filter, View.mem_all]

theorem View.overridden_length (v : View) :
    v.overridden.length = (v.element.visit.filter (·.template.isSome)).length := by
  rw [← v.all_map_element, List.filter_map, List.length_map]
  rfl

theorem View.contains_self (v : View) : v.Contains v := ⟨0, by simp [View.at?, visit_eq]⟩

theorem View.at?_add {v w x : View} {n m : Nat} (outer : v.at? n = some w)
    (inner : w.at? m = some x) : v.at? (n + m) = some x := by
  obtain ⟨e, there, rfl⟩ := Option.map_eq_some_iff.1 outer
  obtain ⟨d, below, rfl⟩ := Option.map_eq_some_iff.1 inner
  refine Option.map_eq_some_iff.2 ⟨d, visit_getElem?_add there below, ?_⟩
  simp [Function.comp_def, Nat.add_assoc]

theorem View.Contains.trans {v w x : View} (outer : v.Contains w) (inner : w.Contains x) :
    v.Contains x := by
  obtain ⟨n, outer⟩ := outer
  obtain ⟨m, inner⟩ := inner
  exact ⟨n + m, View.at?_add outer inner⟩

theorem View.Above.trans_contains {v w x : View} (outer : v.Above w) (inner : w.Contains x) :
    v.Above x := by
  obtain ⟨n, outer⟩ := outer
  obtain ⟨m, inner⟩ := inner
  exact ⟨n + m, by rw [Nat.add_right_comm]; exact View.at?_add outer inner⟩

theorem View.copy_contains {v w : View} (h : v.copy.Contains w) :
    ∃ x, v.Contains x ∧ w = x.copy := by
  obtain ⟨n, found⟩ := h
  obtain ⟨e, there, rfl⟩ := Option.map_eq_some_iff.1 found
  exact ⟨_, ⟨n, Option.map_eq_some_iff.2 ⟨e, there, rfl⟩⟩, rfl⟩

theorem View.Offers.contains {v w x : View} (outer : v.Offers w) (inner : w.Contains x) :
    v.Offers x := by
  rcases outer with below | ⟨original, below, rfl⟩
  · exact .inl (below.trans inner)
  · obtain ⟨y, deeper, rfl⟩ := View.copy_contains inner
    exact .inr ⟨y, below.trans deeper, rfl⟩

theorem View.Offers.trans {v w x : View} (outer : v.Offers w) (inner : w.Offers x) :
    v.Offers x := by
  rcases inner with below | ⟨y, below, rfl⟩
  · exact outer.contains below
  · rcases outer.contains below with deeper | ⟨z, deeper, rfl⟩
    · exact .inr ⟨y, deeper, rfl⟩
    · exact .inr ⟨z, deeper, rfl⟩

theorem View.Offers.original {v w : View} (offered : v.Offers w) {key : Key}
    (hasKey : w.key? = some key) :
    ∃ x, v.Contains x ∧ x.element = w.element ∧ x.key? = some key := by
  rcases offered with below | ⟨x, below, rfl⟩
  · exact ⟨w, below, rfl, hasKey⟩
  · refine ⟨x, below, rfl, ?_⟩
    cases hasId : x.element.id with
    | none => simp [View.key?, View.copy, hasId] at hasKey
    | some id => simpa [View.key?, View.copy, hasId] using hasKey

theorem View.Contains.key?_isSome {v w : View} (contains : v.Contains w)
    (placed : v.place.isSome) : w.key?.isSome := by
  obtain ⟨n, found⟩ := contains
  obtain ⟨e, there, rfl⟩ := Option.map_eq_some_iff.1 found
  unfold View.key?
  cases e.id <;> simp [placed]

theorem View.Offers.no_key {v w : View} (offered : v.Offers w) (placed : v.place.isSome)
    (noKey : w.key? = none) :
    w.place = none ∧ w.element.id = none ∧ w.element ∈ v.element.visit := by
  rcases offered with below | ⟨x, below, rfl⟩
  · have keyed := below.key?_isSome placed
    simp [noKey] at keyed
  · refine ⟨rfl, ?_, below.mem_visit⟩
    cases hasId : x.element.id with
    | none => exact hasId
    | some id => simp [View.key?, View.copy, hasId] at noKey

theorem keys_nodup {runs : List Run}
    (once : ∀ key, (runs.filter fun run => run.view.key? = some key).length ≤ 1) :
    (runs.filterMap (·.view.key?)).Nodup := by
  refine List.nodup_iff_count.2 fun key => ?_
  rw [List.count_filterMap, List.countP_eq_length_filter]
  simpa only [Bool.beq_eq_decide_eq] using once key

theorem keyed_length_le {runs : List Run} {views : List View}
    (once : ∀ key, (runs.filter fun run => run.view.key? = some key).length ≤ 1)
    (native : ∀ run ∈ runs, ∀ key, run.view.key? = some key → ∃ v ∈ views, v.key? = some key) :
    (runs.filter (·.view.key?.isSome)).length ≤ views.length := by
  let keys := runs.filterMap (·.view.key?)
  have subset : keys ⊆ views.filterMap View.key? := by
    intro key member
    obtain ⟨run, ran, hasKey⟩ := List.mem_filterMap.1 member
    obtain ⟨v, found, same⟩ := native run ran key hasKey
    exact List.mem_filterMap.2 ⟨v, found, same⟩
  calc (runs.filter (·.view.key?.isSome)).length
      = keys.length := by rw [← List.countP_eq_length_filter, List.length_filterMap_eq_countP]
    _ ≤ (views.filterMap View.key?).length := (keys_nodup once).length_le_of_subset subset
    _ ≤ views.length := List.length_filterMap_le ..

/-- Every hook asks for what is in its own element, or for copies of it. -/
def AsksWithin (registry : Registry Memory) : Prop :=
  ∀ name hook, registry.get? name = some hook → ∀ v w, (hook v).Asks w → v.Offers w

section
variable {registry : Registry Memory} {nesting depth : Nat} {tree : Frozen} {memory : Memory}

theorem mem_runs_attempt {s : Session Memory} {run : Run} (ran : run ∈ s.runs) :
    ∃ called, .attempt run called ∈ s.events := by
  obtain ⟨event, member, isRun⟩ := List.mem_filterMap.1 ran
  cases event with
  | attempt other called =>
    obtain ⟨-, rfl⟩ : called = true ∧ other = run := by simpa [Event.run?] using isRun
    exact ⟨called, member⟩
  | _ => simp [Event.run?] at isRun

/-- What runs is known, if all hooks keep to what is known. -/
theorem runs_known {known : View → Prop}
    (inside : ∀ v, View.Contains ⟨tree.element, some 0⟩ v → known v)
    (asked : ∀ name hook, registry.get? name = some hook → ∀ v w, v.element.template = some name →
      (hook v).Asks w → known v → ∀ x, w.Above x → known x) :
    ∀ run ∈ (rendering registry nesting depth tree memory).2.runs,
      known run.view ∧ run.view.element.template.isSome := by
  intro run ran
  have walk := rendering_walks registry nesting depth tree memory
  have justified := walk.justified (by simp)
  obtain ⟨called, attempted⟩ := mem_runs_attempt ran
  refine ⟨?_, by simp [(justified _ attempted).1]⟩
  refine walk.attempts_known inside ?_ (by simp) _ attempted
  intro run v requested bound isKnown
  obtain ⟨hook, registered, asks⟩ := justified _ requested
  exact asked run.hook hook registered run.view v bound asks isKnown

theorem runs_offered (within : AsksWithin registry) :
    ∀ run ∈ (rendering registry nesting depth tree memory).2.runs,
      View.Offers ⟨tree.element, some 0⟩ run.view ∧ run.view.element.template.isSome :=
  runs_known (fun _ => .inl) fun name hook registered v w _ asks offered _ above =>
    (offered.trans (within name hook registered v w asks)).contains above.contains

theorem runs_contained
    (originals : ∀ name hook, registry.get? name = some hook → ∀ v w, (hook v).Asks w →
      v.Contains w) :
    ∀ run ∈ (rendering registry nesting depth tree memory).2.runs,
      View.Contains ⟨tree.element, some 0⟩ run.view ∧ run.view.element.template.isSome :=
  runs_known (fun _ => id) fun name hook registered v w _ asks inside _ above =>
    (inside.trans (originals name hook registered v w asks)).trans above.contains

/-- The hooks that run under a key are no more than the elements with a hook. All others run for
copies of elements without an id, so there are none if no hook is on such an element, or if no hook
asks for a copy. -/
theorem keyed_runs_le_overridden (registry : Registry Memory) (nesting depth : Nat) (tree : Frozen)
    (memory : Memory) (within : AsksWithin registry) :
    let runs := (rendering registry nesting depth tree memory).2.runs
    let overridden := tree.element.visit.filter (·.template.isSome)
    (runs.filter (·.view.key?.isSome)).length ≤ overridden.length ∧
    (∀ run ∈ runs, run.view.key? = none →
      run.view.place = none ∧ run.view.element.id = none ∧ run.view.element ∈ overridden) ∧
    ((∀ e ∈ overridden, e.id.isSome) → runs.length ≤ overridden.length) ∧
    ((∀ name hook, registry.get? name = some hook → ∀ v w, (hook v).Asks w → v.Contains w) →
      runs.length ≤ overridden.length) := by
  intro runs overridden
  let root : View := ⟨tree.element, some 0⟩
  have offered : ∀ run ∈ runs, root.Offers run.view ∧ run.view.element.template.isSome :=
    runs_offered within
  have keyed : (runs.filter (·.view.key?.isSome)).length ≤ overridden.length := by
    have walk := rendering_walks registry nesting depth tree memory
    rw [← root.overridden_length]
    refine keyed_length_le (walk.consistent (.start memory)).one_run fun run ran key hasKey => ?_
    obtain ⟨isOffered, hooked⟩ := offered run ran
    obtain ⟨v, inside, same, hasKey⟩ := isOffered.original hasKey
    exact ⟨v, View.mem_overridden.2 ⟨inside, by rwa [same]⟩, hasKey⟩
  have unkeyed : ∀ run ∈ runs, run.view.key? = none →
      run.view.place = none ∧ run.view.element.id = none ∧ run.view.element ∈ overridden := by
    intro run ran noKey
    obtain ⟨isOffered, hooked⟩ := offered run ran
    obtain ⟨noPlace, noId, inside⟩ := isOffered.no_key rfl noKey
    exact ⟨noPlace, noId, List.mem_filter.2 ⟨inside, hooked⟩⟩
  have total (all : ∀ run ∈ runs, run.view.key?.isSome) : runs.length ≤ overridden.length := by
    rwa [List.filter_eq_self.2 all] at keyed
  refine ⟨keyed, unkeyed, fun haveIds => total fun run ran => ?_, fun originals => total ?_⟩
  · rw [← Option.ne_none_iff_isSome]
    intro noKey
    obtain ⟨-, noId, hooked⟩ := unkeyed run ran noKey
    simpa [noId] using haveIds _ hooked
  · intro run ran
    exact (runs_contained originals run ran).1.key?_isSome rfl

end

/-- The innermost element has a hook but no id. -/
def copied : Frozen where
  element :=
    { ((Element.of "div" "Root" "FRAME").withChildren
        [{ ((Element.of "b" "Mid" "FRAME").withChildren
            [{ Element.of "i" "Leaf" "FRAME" with template := some "star" }]).withId "m" with
          template := some "twice" }]).withId "r" with
      template := some "copy" }
  sound := by decide

def copyHooks : Registry :=
  [("copy", fun v => .generate v.copy .finish),
   ("star", fun _ => .finish "*"),
   ("twice", fun v => .generate v fun first => .generate v fun second => .finish (first ++ second))]

theorem copyHooks_askWithin : AsksWithin copyHooks := by
  intro name hook registered v w asks
  have whole := v.contains_self
  simp only [copyHooks, Dict.get?] at registered
  split at registered
  · cases registered
    cases asks with
    | now => exact .inr ⟨v, whole, rfl⟩
    | generate _ rest => cases rest
  split at registered
  · cases registered
    cases asks
  split at registered
  · cases registered
    cases asks with
    | now => exact .inl whole
    | generate _ rest =>
      cases rest with
      | now => exact .inl whole
      | generate _ rest => cases rest
  · cases registered

theorem copied_keyed_runs :
    AsksWithin copyHooks ∧
    let runs := (rendering copyHooks 3 0 copied ()).2.runs
    (runs.filter (·.view.key?.isSome)).length ≤
      (copied.element.visit.filter (·.template.isSome)).length :=
  ⟨copyHooks_askWithin, (keyed_runs_le_overridden copyHooks 3 0 copied () copyHooks_askWithin).1⟩

theorem copies_without_id_run_again :
    AsksWithin copyHooks ∧
    let (markup, session) := rendering copyHooks 3 0 copied ()
    markup = some "<div>\n  <b>\n  *\n</b><b>\n  *\n</b>\n</div>" ∧
    session.runs.map (·.hook) = ["copy", "twice", "star", "star"] ∧
    (copied.element.visit.filter (·.template.isSome)).length < session.runs.length := by
  refine ⟨copyHooks_askWithin, ?_⟩
  decide +kernel

end DesignMarkup.Markup
