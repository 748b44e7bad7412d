import DesignMarkup.Proofs.Markup.Lifecycle
/-!
What a rendering does to its session, step by step, whatever the hooks do. `rendering_walks` says
that every rendering is such a walk, also one that is cut short; what holds of all renderings is
then shown by induction on walks.
-/
namespace DesignMarkup.Markup
variable {Memory : Type}

def View.at? (v : View) (n : Nat) : Option View :=
  v.element.visit[n]?.map fun e => ⟨e, v.place.map (· + n)⟩

def View.Contains (v w : View) : Prop := ∃ n, v.at? n = some w

theorem View.Contains.mem_visit {v w : View} (h : v.Contains w) :
    w.element ∈ v.element.visit := by
  obtain ⟨n, found⟩ := h
  obtain ⟨e, there, rfl⟩ := Option.map_eq_some_iff.1 found
  exact List.mem_of_getElem? there

def View.Above (v w : View) : Prop := ∃ n, v.at? (n + 1) = some w

theorem View.Above.contains {v w : View} (above : v.Above w) : v.Contains w := by
  obtain ⟨n, found⟩ := above
  exact ⟨n + 1, found⟩

theorem View.Above.mem_descendants {v w : View} (above : v.Above w) :
    w.element ∈ v.element.descendants := by
  obtain ⟨n, found⟩ := above
  obtain ⟨e, there, rfl⟩ := Option.map_eq_some_iff.1 found
  rw [Element.visit_eq, List.getElem?_cons_succ] at there
  exact List.mem_of_getElem? there

/-- The default form, as it is given in a consistent session that ends with these events. -/
def IsDefault (registry : Registry Memory) (depth : Nat) (v : View) (text : String)
    (events : List Event) : Prop :=
  ∃ nesting, ∃ s t : Session Memory, s.Consistent ∧ t.events = events ∧
    perform (renderDefault (overrideWithin registry nesting) depth v) s = (some text, t)

/-- After `events`, an overridden element is written as the hook of its key left it: by the output
that it gave, or in the default form if it failed or is still running. -/
def AsRecorded (registry : Registry Memory) (depth : Nat) (v : View) (text : String)
    (events : List Event) : Prop :=
  v.element.template.isSome → ∀ key, v.key? = some key → ∃ record,
    Lifecycle (history events key) (some record) ∧
      match record with
      | some output => text = output
      | none => IsDefault registry depth v text events

inductive Delegation.Ends : Delegation Memory → Except HookFailure String → Prop where
  | finish (output : String) : Ends (.finish output) (.ok output)
  | fail (message : String) : Ends (.fail message) (.error (.failed message))
  | panic : Ends .panic (.error .panicked)
  | generate {view : View} {next : String → Delegation Memory} {result} (text : String)
      (rest : Ends (next text) result) : Ends (.generate view next) result
  | load {next : Memory → Delegation Memory} {result} (memory : Memory)
      (rest : Ends (next memory) result) : Ends (.load next) result
  | store {next : Delegation Memory} {result} (memory : Memory) (rest : Ends next result) :
      Ends (.store memory next) result

inductive Delegation.Asks : Delegation Memory → View → Prop where
  | now (view : View) (next : String → Delegation Memory) : Asks (.generate view next) view
  | generate {view : View} {next : String → Delegation Memory} {other} (text : String)
      (rest : Asks (next text) other) : Asks (.generate view next) other
  | load {next : Memory → Delegation Memory} {other} (memory : Memory)
      (rest : Asks (next memory) other) : Asks (.load next) other
  | store {next : Delegation Memory} {other} (memory : Memory) (rest : Asks next other) :
      Asks (.store memory next) other

def Outcome (registry : Registry Memory) (run : Run) (result : Except HookFailure String) : Prop :=
  match registry.get? run.hook with
  | none => result = .error .unregistered
  | some hook => (hook run.view).Ends result

def Request (registry : Registry Memory) (run : Run) (v : View) : Prop :=
  ∃ hook, registry.get? run.hook = some hook ∧ (hook run.view).Asks v

/-- The hooks are those of the elements, and do what they can do. -/
def Event.Justified (registry : Registry Memory) : Event → Prop
  | .attempt run called =>
    run.view.element.template = some run.hook ∧ called = registry.contains run.hook
  | .generate run v => Request registry run v
  | .settle run result => Outcome registry run result
  | .written .. => True

inductive Stage where
  | elements (known : View → Prop)
  | call (run : Run)

inductive Walk (registry : Registry Memory) : Stage → Session Memory → Session Memory → Prop where
  | refl (stage : Stage) (s : Session Memory) : Walk registry stage s s
  | trans {stage : Stage} {s t u : Session Memory} (first : Walk registry stage s t)
      (second : Walk registry stage t u) : Walk registry stage s u
  | written {known : View → Prop} {s : Session Memory} {depth : Nat} {v : View} {text : String}
      (isKnown : known v) (asRecorded : AsRecorded registry depth v text s.events) :
      Walk registry (.elements known) s (s.note (.written depth v text))
  /-- A hook that is still running. -/
  | attempt {known : View → Prop} {s t : Session Memory} {run : Run} (isKnown : known run.view)
      (bound : run.view.element.template = some run.hook)
      (unseen : s.recorded? run.view.key? = none)
      (running : Walk registry (.call run) (s.attempt run (registry.contains run.hook)) t) :
      Walk registry (.elements known) s t
  | settle {known : View → Prop} {s t : Session Memory} {run : Run} (isKnown : known run.view)
      (bound : run.view.element.template = some run.hook)
      (unseen : s.recorded? run.view.key? = none)
      (running : Walk registry (.call run) (s.attempt run (registry.contains run.hook)) t)
      {result : Except HookFailure String} (outcome : Outcome registry run result) :
      Walk registry (.elements known) s (t.settle run result)
  | generate {run : Run} {v : View} {s t : Session Memory} (request : Request registry run v)
      (inside : Walk registry (.elements v.Above) (s.note (.generate run v)) t) :
      Walk registry (.call run) s t
  | store {run : Run} {s : Session Memory} (memory : Memory) :
      Walk registry (.call run) s { s with memory }

section
variable {registry : Registry Memory} {stage : Stage} {s t : Session Memory}

theorem key_apart {run : Run} {key : Key} {record : Option String}
    (unseen : s.recorded? run.view.key? = none) (entry : s.recorded? (some key) = some record) :
    run.view.key? ≠ some key := by
  intro same
  simp [same, entry] at unseen

theorem entry_attempt {run : Run} {key : Key} {record : Option String} (called : Bool)
    (unseen : s.recorded? run.view.key? = none) (entry : s.recorded? (some key) = some record) :
    (s.attempt run called).recorded? (some key) = some record := by
  rwa [Session.recorded?_attempt, if_neg (key_apart unseen entry)]

theorem entry_attempt_own (s : Session Memory) (run : Run) (called : Bool) {key : Key}
    (same : run.view.key? = some key) :
    (s.attempt run called).recorded? (some key) = some none := by
  rw [Session.recorded?_attempt, if_pos same]

/-- The entry of a key changes only by the hook that runs for it. -/
theorem Walk.entry_kept (walk : Walk registry stage s t) {key : Key}
    {record : Option String} (entry : s.recorded? (some key) = some record) :
    t.recorded? (some key) = some record := by
  induction walk with
  | refl => exact entry
  | trans first second ih ih' => exact ih' (ih entry)
  | written => exact entry
  | attempt _ _ unseen running ih => exact ih (entry_attempt _ unseen entry)
  | settle _ _ unseen running outcome ih =>
    rw [Session.recorded?_settle_other _ _ _ (key_apart unseen entry)]
    exact ih (entry_attempt _ unseen entry)
  | generate _ inside ih => exact ih entry
  | store => exact entry

theorem Walk.history_kept (walk : Walk registry stage s t) {key : Key}
    {record : Option String} (entry : s.recorded? (some key) = some record) :
    history t.events key = history s.events key := by
  induction walk with
  | refl => rfl
  | trans first second ih ih' => exact (ih' (first.entry_kept entry)).trans (ih entry)
  | written => rw [Session.note, history_snoc]; rfl
  | attempt _ _ unseen running ih =>
    rw [ih (entry_attempt _ unseen entry), Session.events_attempt, history_snoc]
    exact if_neg (key_apart unseen entry)
  | settle _ _ unseen running outcome ih =>
    have apart := key_apart unseen entry
    rw [Session.events_settle, history_snoc, ih (entry_attempt _ unseen entry),
      Session.events_attempt, history_snoc]
    exact (if_neg apart).trans (if_neg apart)
  | generate _ inside ih => rw [ih entry, Session.note, history_snoc]; rfl
  | store => rfl

theorem Walk.consistent (walk : Walk registry stage s t) (h : s.Consistent) : t.Consistent := by
  induction walk with
  | refl => exact h
  | trans first second ih ih' => exact ih' (ih h)
  | written => exact h.note rfl rfl
  | attempt _ _ unseen running ih => exact ih (h.attempt _ unseen)
  | @settle _ s t run _ _ unseen running result _ ih =>
    let called := registry.contains run.hook
    refine (ih (h.attempt called unseen)).settle called result fun key same => ?_
    have entry := entry_attempt_own s run called same
    have before := h.lifecycle key
    rw [← same, unseen] at before
    refine ⟨?_, running.entry_kept entry⟩
    rw [running.history_kept entry, Session.events_attempt, history_snoc, before.eq_nil]
    exact if_pos same
  | generate _ inside ih => exact ih (h.note rfl rfl)
  | store memory => exact h.store memory

theorem Walk.events_kept (walk : Walk registry stage s t) : s.events <+: t.events := by
  induction walk with
  | refl => exact List.prefix_refl _
  | trans first second ih ih' => exact ih.trans ih'
  | written => exact List.prefix_append ..
  | attempt _ _ _ running ih =>
    rw [Session.events_attempt] at ih
    exact (List.prefix_append ..).trans ih
  | settle _ _ _ running outcome ih =>
    rw [Session.events_attempt] at ih
    rw [Session.events_settle]
    exact ((List.prefix_append ..).trans ih).trans (List.prefix_append ..)
  | generate _ inside ih => exact (List.prefix_append ..).trans ih
  | store => exact List.prefix_refl _

theorem all_snoc {holds : Event → Prop} {events : List Event} {event : Event}
    (before : ∀ e ∈ events, holds e) (last : holds event) : ∀ e ∈ events ++ [event], holds e :=
  List.forall_mem_append.2 ⟨before, List.forall_mem_singleton.2 last⟩

theorem Walk.justified (walk : Walk registry stage s t)
    (before : ∀ event ∈ s.events, event.Justified registry) :
    ∀ event ∈ t.events, event.Justified registry := by
  induction walk with
  | refl => exact before
  | trans first second ih ih' => exact ih' (ih before)
  | written => exact all_snoc before trivial
  | attempt _ bound _ running ih =>
    rw [Session.events_attempt] at ih
    exact ih (all_snoc before ⟨bound, rfl⟩)
  | settle _ bound _ running outcome ih =>
    rw [Session.events_attempt] at ih
    rw [Session.events_settle]
    exact all_snoc (ih (all_snoc before ⟨bound, rfl⟩)) outcome
  | generate request inside ih => exact ih (all_snoc before request)
  | store => exact before

def Stage.Within (known : View → Prop) : Stage → Prop
  | .elements shown => ∀ v, shown v → known v
  | .call run => known run.view ∧ run.view.element.template = some run.hook

def Event.Within (known : View → Prop) : Event → Prop
  | .attempt run _ => known run.view
  | _ => True

/-- If below what hooks ask for there is only what is known, while they run for known views, all
that is attempted is known. -/
theorem Walk.attempts_known {known : View → Prop} (walk : Walk registry stage s t)
    (here : stage.Within known)
    (asked : ∀ run v, .generate run v ∈ t.events → run.view.element.template = some run.hook →
      known run.view → ∀ w, v.Above w → known w)
    (before : ∀ event ∈ s.events, event.Within known) : ∀ event ∈ t.events, event.Within known := by
  induction walk with
  | refl => exact before
  | trans first second ih ih' =>
    refine ih' here asked (ih here (fun run v member => ?_) before)
    exact asked run v (second.events_kept.subset member)
  | written => exact all_snoc before trivial
  | attempt isKnown bound _ running ih =>
    rw [Session.events_attempt] at ih
    exact ih ⟨here _ isKnown, bound⟩ asked (all_snoc before (here _ isKnown))
  | settle isKnown bound _ running outcome ih =>
    rw [Session.events_attempt] at ih
    rw [Session.events_settle] at asked ⊢
    refine all_snoc (ih ⟨here _ isKnown, bound⟩ (fun run v member => ?_) ?_) trivial
    · exact asked run v (List.mem_append_left _ member)
    · exact all_snoc before (here _ isKnown)
  | @generate caller v s t _ inside ih =>
    have requested : Event.generate caller v ∈ t.events :=
      inside.events_kept.subset (by simp [Session.note])
    exact ih (asked caller v requested here.2 here.1) asked (all_snoc before trivial)
  | store => exact before

end

/-- From a consistent session a rendering is a walk. -/
def Walks (registry : Registry Memory) (stage : Stage) {α : Type} (m : Rendering Memory α)
    (result : α → Prop) : Prop :=
  ∀ s : Session Memory, s.Consistent → Walk registry stage s (perform m s).2 ∧
    ∀ a, (perform m s).1 = some a → result a

theorem walks_logic (registry : Registry Memory) (stage : Stage) :
    Logic (Walks registry stage) where
  pure {_ a _} h s _ := ⟨.refl stage s, fun b hb => by simp_all⟩
  bind {_ _ m f _ _} hm hf s hs := by
    obtain ⟨first, middle⟩ := hm s hs
    rw [perform_bind]
    rcases ran : perform m s with ⟨_ | a, t⟩
    · rw [ran] at first
      exact ⟨first, by simp⟩
    · rw [ran] at first middle
      obtain ⟨second, last⟩ := hf a (middle a rfl) t (first.consistent hs)
      exact ⟨first.trans second, last⟩

def anyText (_ : Nat) (_ : View) (_ : String) : Prop := True

section
variable {registry : Registry Memory}

theorem above_covers (v : View) :
    Covered v.Above (v.place.map (· + 1)) v.element.descendants := by
  intro i e found
  refine ⟨i, ?_⟩
  rw [View.at?, Element.visit_eq, List.getElem?_cons_succ, found]
  simp [Function.comp_def, Nat.add_assoc, Nat.add_comm 1]

theorem contains_covers (v : View) : Covered v.Contains v.place v.element.visit := by
  intro i e found
  exact ⟨i, by rw [View.at?, found]; rfl⟩

theorem delegation_walks {run : Run} {generate : View → Rendering Memory String}
    (d : Delegation Memory)
    (answered : ∀ v, d.Asks v → Walks registry (.call run) (generate v) fun _ => True) :
    Walks registry (.call run) (runDelegation generate d) d.Ends := by
  have logic := walks_logic registry (.call run)
  induction d with
  | finish output => exact logic.pure (.finish output)
  | fail message => exact logic.pure (.fail message)
  | panic => exact logic.pure .panic
  | generate view next ih =>
    refine logic.bind (answered view (.now view next)) fun text _ => ?_
    exact logic.mono (ih text fun v asks => answered v (.generate text asks)) fun _ => .generate text
  | load next ih =>
    intro s hs
    obtain ⟨walk, ends⟩ := ih s.memory (fun v asks => answered v (.load s.memory asks)) s hs
    exact ⟨walk, fun result ended => .load s.memory (ends result ended)⟩
  | store memory next ih =>
    refine logic.bind (fun s _ => ⟨.store memory, fun _ _ => trivial⟩) fun _ _ => ?_
    exact logic.mono (ih fun v asks => answered v (.store memory asks)) fun _ => .store memory

def OverrideWalks (registry : Registry Memory) (override : Override Memory) : Prop :=
  ∀ known v, known v → ∀ s : Session Memory, s.Consistent →
    Walk registry (.elements known) s (perform (override v) s).2 ∧
    ∀ output, (perform (override v) s).1 = some output → v.element.template.isSome →
      ∀ key, v.key? = some key → (perform (override v) s).2.recorded? (some key) = some output

section
variable {nesting : Nat} (ready : OverrideWalks registry (overrideWithin registry nesting))
include ready

theorem node_walks {known : View → Prop} {depth : Nat} {v : View} {result : String → Prop}
    (isKnown : known v)
    (rest : Walks registry (.elements known)
      (renderDefault (overrideWithin registry nesting) depth v) result) :
    Walks registry (.elements known)
      (render (overrideWithin registry nesting) depth v.place v.element) (anyText depth v) := by
  intro s hs
  refine ⟨?_, fun _ _ => trivial⟩
  obtain ⟨first, entry⟩ := ready known v isKnown s hs
  rw [render_eq, perform_bind]
  rcases ran : perform (overrideWithin registry nesting v) s with ⟨_ | _ | output, t⟩
  · rw [ran] at first
    exact first
  · rw [ran] at first entry
    have ht := first.consistent hs
    have second := (rest t ht).1
    simp only [perform_bind]
    rcases more : perform (renderDefault (overrideWithin registry nesting) depth v) t with ⟨_ | text, u⟩
    · rw [more] at second
      exact first.trans second
    · rw [more] at second
      refine (first.trans second).trans (.written isKnown fun bound key same => ?_)
      have cycle := (second.consistent ht).lifecycle key
      rw [second.entry_kept (entry none rfl bound key same)] at cycle
      exact ⟨none, cycle, nesting, t, u, ht, rfl, more⟩
  · rw [ran] at first entry
    refine first.trans (.written isKnown fun bound key same => ?_)
    have cycle := (first.consistent hs).lifecycle key
    rw [entry (some output) rfl bound key same] at cycle
    exact ⟨some output, cycle, rfl⟩

theorem answer_walks (run : Run) (v : View) (request : Request registry run v) :
    Walks registry (.call run) (answer (overrideWithin registry nesting) run v) fun _ => True := by
  have inside := renderDefault_shown (walks_logic registry (.elements v.Above))
    (fun _ _ isKnown rest => node_walks ready isKnown rest) 0 v (above_covers v)
  intro s hs
  exact ⟨.generate request (inside _ (hs.note rfl rfl)).1, fun _ _ => trivial⟩

end

/-- What running hooks ask for walks, if they may run at all. -/
def InnerWalks (registry : Registry Memory) (inner : Option (Override Memory)) : Prop :=
  ∀ override ∈ inner, ∀ run v, Request registry run v →
    Walks registry (.call run) (answer override run v) fun _ => True

theorem invoke_walks {inner : Option (Override Memory)} (answered : InnerWalks registry inner)
    (run : Run) : Walks registry (.call run) (invoke registry inner run) (Outcome registry run) := by
  unfold invoke Outcome
  cases registered : registry.get? run.hook with
  | none => exact (walks_logic ..).pure rfl
  | some hook =>
    cases inner with
    | none => exact fun s _ => ⟨.refl _ s, by simp⟩
    | some override =>
      exact delegation_walks (hook run.view) fun v asks =>
        answered override rfl run v ⟨hook, registered, asks⟩

theorem overrideBy_walks {inner : Option (Override Memory)} (answered : InnerWalks registry inner) :
    OverrideWalks registry (overrideBy registry inner) := by
  intro known v isKnown s hs
  unfold overrideBy
  cases bound : v.element.template with
  | none => exact ⟨.refl _ s, by simp⟩
  | some hook =>
    simp only [perform_bind, perform_get]
    cases unseen : s.recorded? v.key? with
    | some record =>
      refine ⟨.refl _ s, fun output same _ key hasKey => ?_⟩
      rw [hasKey] at unseen
      simpa [unseen] using same
    | none =>
      let run : Run := ⟨hook, v⟩
      let called := registry.contains hook
      have consistent : (s.attempt run called).Consistent := hs.attempt called unseen
      obtain ⟨running, ends⟩ := invoke_walks answered run _ consistent
      simp only [perform_modify, perform_bind]
      rcases ran : perform (invoke registry inner run) (s.attempt run called) with ⟨_ | result, t⟩
      · rw [ran] at running
        exact ⟨.attempt isKnown bound unseen running, by simp⟩
      · rw [ran] at running ends
        refine ⟨.settle isKnown bound unseen running (ends result rfl),
          fun output same _ key hasKey => ?_⟩
        obtain rfl : result.toOption = output := by simpa using same
        have entry := entry_attempt_own s run called hasKey
        exact Session.recorded?_settle_own t run result hasKey (running.entry_kept entry)

theorem override_walks (nesting : Nat) :
    OverrideWalks registry (overrideWithin registry nesting) := by
  induction nesting with
  | zero => exact overrideBy_walks fun _ none => by cases none
  | succ nesting ih =>
    refine overrideBy_walks fun override inner run v request => ?_
    cases inner
    exact answer_walks ih run v request

theorem rendering_walks (registry : Registry Memory) (nesting depth : Nat) (tree : Frozen)
    (memory : Memory) :
    Walk registry (.elements (View.Contains ⟨tree.element, some 0⟩)) { memory }
      (rendering registry nesting depth tree memory).2 :=
  (render_shown (walks_logic ..)
    (fun _ _ isKnown rest => node_walks (override_walks nesting) isKnown rest) depth (some 0)
    tree.element (contains_covers ⟨tree.element, some 0⟩) { memory } (.start memory)).1

end

end DesignMarkup.Markup
