import DesignMarkup.Proofs.Markup.Denotation
import DesignMarkup.Proofs.Markup.Lifecycle
/-!
A rendering gives the meaning of its tree, although it keeps what hooks gave. An entry is used later
than it was made, at another depth, for a copy, or by a hook around it that fails: it is the meaning
of every element of the tree that has its key, unless the hook of the key is still running.
-/
namespace DesignMarkup.Markup
open Element
variable {Memory : Type}

def View.Genuine (tree : Frozen) (v : View) : Prop :=
  ∀ k, v.place = some k → tree.element.visit[k]? = some v.element

inductive Follows (tree : Frozen) {e : Element} : Delegation Memory → Script e → Prop where
  | finish (output : String) : Follows tree (.finish output) (.finish output)
  | fail (message : String) : Follows tree (.fail message) (.fail message)
  | panic : Follows tree .panic .panic
  | generate {v : View} {next : String → Delegation Memory} {rest : String → Script e}
      (genuine : v.Genuine tree) (inside : ∀ c ∈ v.element.branches, c ∈ e.descendants)
      (later : ∀ text, Follows tree (next text) (rest text)) :
      Follows tree (.generate v next) (.generate v.element inside rest)
  | load {next : Memory → Delegation Memory} {script : Script e}
      (later : ∀ memory, Follows tree (next memory) script) : Follows tree (.load next) script
  | store {next : Delegation Memory} {script : Script e} (memory : Memory)
      (later : Follows tree next script) : Follows tree (.store memory next) script

/-- For the elements of the tree the hooks are registered as scripts are, and follow them. -/
def Implements (registry : Registry Memory) (scripts : Scripts) (tree : Frozen) : Prop :=
  ∀ e ∈ tree.element.visit, ∀ name, e.template = some name →
    Option.Rel (fun hook script => ∀ v : View, v.element = e → v.Genuine tree →
      Follows tree (hook v) (script e)) (registry.get? name) (scripts name)

structure Native (tree : Frozen) (v : View) : Prop where
  member : v.element ∈ tree.element.visit
  genuine : v.Genuine tree

theorem Native.same_element {tree : Frozen} {v w : View} {key : Key} (hv : Native tree v)
    (hw : Native tree w) (vKey : v.key? = some key) (wKey : w.key? = some key) :
    v.element = w.element := by
  cases key with
  | id name =>
    have vId : v.element.id = some name := key?_eq_id_iff.1 vKey
    have wId : w.element.id = some name := key?_eq_id_iff.1 wKey
    have inIds : name ∈ tree.element.ids := List.mem_filterMap.2 ⟨v.element, hv.member, vId⟩
    obtain ⟨e, alone⟩ := List.length_eq_one_iff.1 (frozen_id_once tree inIds)
    have vThere : v.element ∈ tree.element.visit.filter (·.id = some name) := by
      simp [hv.member, vId]
    have wThere : w.element ∈ tree.element.visit.filter (·.id = some name) := by
      simp [hw.member, wId]
    rw [alone, List.mem_singleton] at vThere wThere
    rw [vThere, wThere]
  | place n =>
    obtain ⟨-, vPlace⟩ := key?_eq_place_iff.1 vKey
    obtain ⟨-, wPlace⟩ := key?_eq_place_iff.1 wKey
    have found := hv.genuine n vPlace
    rw [hw.genuine n wPlace] at found
    exact (Option.some.inj found).symm

def Means (scripts : Scripts) (depth : Nat) (v : View) (text : String) : Prop :=
  text = denote scripts depth v.element

def gives (scripts : Scripts) (e : Element) : Option String :=
  scripts.output (form (denote scripts) 0) e

/-- Entries are right, but for those of running hooks, which are empty. -/
def Sound (scripts : Scripts) (tree : Frozen) (busy : List View) (s : Session Memory) : Prop :=
  ∀ v, Native tree v → ∀ key, v.key? = some key → ∀ entry, s.recorded? (some key) = some entry →
    entry = gives scripts v.element ∨ entry = none ∧ ∃ b ∈ busy, b.key? = some key

section
variable {scripts : Scripts} {tree : Frozen} {busy : List View} {s : Session Memory} {run : Run}

theorem Sound.attempt (sound : Sound scripts tree busy s) (called : Bool) :
    Sound scripts tree (run.view :: busy) (s.attempt run called) := by
  intro v native key hasKey entry found
  rw [Session.recorded?_attempt] at found
  split at found
  · rename_i own
    exact .inr ⟨(Option.some.inj found).symm, run.view, List.mem_cons_self, own⟩
  · rcases sound v native key hasKey entry found with right | ⟨empty, b, running, same⟩
    · exact .inl right
    · exact .inr ⟨empty, b, List.mem_cons_of_mem _ running, same⟩

theorem Sound.settle (sound : Sound scripts tree (run.view :: busy) s)
    (native : Native tree run.view) {result : Except HookFailure String}
    (gave : result.toOption = gives scripts run.view.element) :
    Sound scripts tree busy (s.settle run result) := by
  intro v hv key hasKey entry found
  by_cases own : run.view.key? = some key
  · left
    rw [← native.same_element hv own hasKey, ← gave]
    rw [Session.recorded?_settle] at found
    cases result with
    | ok output =>
      simp only [if_pos own] at found
      exact (Option.some.inj found).symm
    | error failure =>
      rcases sound v hv key hasKey entry found with right | ⟨empty, -⟩
      · rw [right, ← native.same_element hv own hasKey, ← gave]
      · exact empty
  · rw [Session.recorded?_settle_other _ _ _ own] at found
    rcases sound v hv key hasKey entry found with right | ⟨empty, b, running, same⟩
    · exact .inl right
    · rcases List.mem_cons.1 running with rfl | running
      · exact absurd same own
      · exact .inr ⟨empty, b, running, same⟩

theorem sound_start (memory : Memory) : Sound scripts tree [] { memory } := by
  intro v native key hasKey entry found
  simp [Session.recorded?] at found

end

/-- What can be written while the hooks of `busy` run and `n` more may. -/
structure Ready (tree : Frozen) (busy : List View) (n : Nat) (v : View) : Prop where
  native : Native tree v
  smaller : ∀ b ∈ busy, Native tree b ∧ v.element.count < b.element.count
  enough : v.element.count ≤ n

section
variable {registry : Registry Memory} {scripts : Scripts} {tree : Frozen} {busy : List View}
  {override : Override Memory} {n depth : Nat} {v : View}

theorem write_means (text : String) :
    Returns (Sound scripts tree busy) (write depth v text : Rendering Memory String) (· = text) :=
  fun s sound => ⟨text, s.note (.written depth v text), rfl, rfl, sound⟩

theorem node_means
    (gave : Returns (Sound scripts tree busy) (override v) (· = gives scripts v.element))
    (rest : Returns (Sound scripts tree busy) (renderDefault override depth v)
      (FormText (Means scripts) depth v)) :
    Returns (Sound scripts tree busy) (render override depth v.place v.element)
      (Means scripts depth v) := by
  have logic := returns_logic (Sound scripts tree busy : Session Memory → Prop)
  have meaning := denote_eq scripts depth v.element
  refine render_node logic gave rest (fun output same => ?_) fun own same isForm => ?_
  · refine logic.mono (write_means output) fun text written => ?_
    rw [← gives, ← same] at meaning
    rw [Means, meaning, written]
    rfl
  · refine logic.mono (write_means own) fun text written => ?_
    rw [← gives, ← same] at meaning
    rw [Means, meaning, written, formText_eq (fun _ _ _ means => means) isForm]
    rfl

theorem default_means (genuine : v.Genuine tree)
    (gave : ∀ w, Ready tree busy n w →
      Returns (Sound scripts tree busy) (override w) (· = gives scripts w.element))
    (ready : ∀ d ∈ v.element.descendants, d ∈ tree.element.visit ∧ d.count ≤ n ∧
      ∀ b ∈ busy, Native tree b ∧ d.count < b.element.count) :
    Returns (Sound scripts tree busy) (renderDefault override depth v)
      (· = form (denote scripts) depth v.element) := by
  have logic := returns_logic (Sound scripts tree busy : Session Memory → Prop)
  have covered : Covered (Ready tree busy n) (v.place.map (· + 1)) v.element.descendants := by
    intro i d found
    obtain ⟨member, enough, smaller⟩ := ready d (List.mem_of_getElem? found)
    refine ⟨⟨member, fun k place => ?_⟩, smaller, enough⟩
    obtain ⟨j, hasPlace, rfl⟩ : ∃ j, v.place = some j ∧ j + (i + 1) = k := by
      simpa [Function.comp_def, Nat.add_assoc, Nat.add_comm 1] using place
    refine visit_getElem?_add (genuine j hasPlace) ?_
    rwa [visit_eq, List.getElem?_cons_succ]
  have walked : Returns (Sound scripts tree busy) (renderDefault override depth v)
      (FormText (Means scripts) depth v) :=
    renderDefault_shown logic (fun _ w isReady rest => node_means (gave w isReady) rest) depth v
      covered
  exact logic.mono walked fun text isForm => formText_eq (fun _ _ _ means => means) isForm

theorem delegation_means {e : Element} {generate : View → Rendering Memory String}
    (answers : ∀ m : View, m.Genuine tree → (∀ c ∈ m.element.branches, c ∈ e.descendants) →
      Returns (Sound scripts tree busy) (generate m) (· = form (denote scripts) 0 m.element))
    {d : Delegation Memory} {script : Script e} (follows : Follows tree d script) :
    Returns (Sound scripts tree busy) (runDelegation generate d)
      (·.toOption = script.output (form (denote scripts) 0)) := by
  have logic := returns_logic (Sound scripts tree busy : Session Memory → Prop)
  induction follows with
  | finish | fail | panic => exact logic.pure rfl
  | generate genuine inside later ih =>
    refine logic.bind (answers _ genuine inside) fun text same => ?_
    rw [Script.output, ← same]
    exact ih text
  | load later ih =>
    intro s sound
    exact ih s.memory s sound
  | store memory later ih =>
    intro s sound
    exact ih { s with memory } sound

def Answers (scripts : Scripts) (tree : Frozen) (override : Override Memory) (n : Nat) : Prop :=
  ∀ busy v, Ready tree busy n v →
    Returns (Sound scripts tree busy) (override v) (· = gives scripts v.element)

theorem answer_means (answers : Answers scripts tree override n) {run : Run}
    (ready : Ready tree busy (n + 1) run.view) {m : View} (genuine : m.Genuine tree)
    (inside : ∀ c ∈ m.element.branches, c ∈ run.view.element.descendants) :
    Returns (Sound scripts tree (run.view :: busy)) (answer override run m)
      (· = form (denote scripts) 0 m.element) := by
  have logic := returns_logic (Sound scripts tree (run.view :: busy) : Session Memory → Prop)
  have noted : Returns (Sound scripts tree (run.view :: busy))
      (modify (·.note (.generate run m)) : Rendering Memory PUnit) fun _ => True :=
    .modify fun s sound => sound
  refine logic.bind noted fun _ _ => default_means genuine (answers _) fun d below => ?_
  obtain ⟨c, part, member⟩ := mem_descendants.1 below
  have le := count_le member
  have lt := count_lt (inside c part)
  have small := ready.enough
  refine ⟨?_, by omega, fun b running => ?_⟩
  · have inRun := (visit_within (mem_visit_of_below (inside c part))).subset member
    exact (visit_within ready.native.member).subset inRun
  · rcases List.mem_cons.1 running with rfl | running
    · exact ⟨ready.native, by omega⟩
    · obtain ⟨native, smaller⟩ := ready.smaller b running
      exact ⟨native, by omega⟩

theorem invoke_means (implements : Implements registry scripts tree)
    (answers : Answers scripts tree override n) (run : Run)
    (bound : run.view.element.template = some run.hook)
    (ready : Ready tree busy (n + 1) run.view) :
    Returns (Sound scripts tree (run.view :: busy)) (invoke registry (some override) run)
      (·.toOption = gives scripts run.view.element) := by
  have logic := returns_logic (Sound scripts tree (run.view :: busy) : Session Memory → Prop)
  have related := implements _ ready.native.member run.hook bound
  unfold invoke gives Scripts.output
  rw [bound]
  rw [Option.bind_some]
  generalize registry.get? run.hook = registered, scripts run.hook = script at related
  cases related with
  | none => exact logic.pure rfl
  | some follows =>
    exact delegation_means (fun m genuine inside => answer_means answers ready genuine inside)
      (follows run.view rfl ready.native.genuine)

theorem answers_succ (implements : Implements registry scripts tree)
    (answers : Answers scripts tree (overrideWithin registry n) n) :
    Answers scripts tree (overrideWithin registry (n + 1)) (n + 1) := by
  intro busy v ready s sound
  unfold overrideWithin overrideBy
  cases bound : v.element.template with
  | none => exact ⟨none, s, rfl, by simp [gives, Scripts.output, bound], sound⟩
  | some hook =>
    simp only [perform_bind, perform_get]
    cases found : s.recorded? v.key? with
    | some entry =>
      refine ⟨entry, s, rfl, ?_, sound⟩
      cases hasKey : v.key? with
      | none => simp [hasKey, Session.recorded?] at found
      | some key =>
        rw [hasKey] at found
        rcases sound v ready.native key hasKey entry found with right | ⟨-, b, running, same⟩
        · exact right
        · -- the hook of `v` is not running, as all that run are for greater elements
          obtain ⟨native, smaller⟩ := ready.smaller b running
          rw [native.same_element ready.native same hasKey] at smaller
          exact absurd smaller (Nat.lt_irrefl _)
    | none =>
      let run : Run := ⟨hook, v⟩
      let called := registry.contains hook
      have invoked := invoke_means implements answers run bound ready
      obtain ⟨result, t, ran, gave, soundT⟩ := invoked (s.attempt run called) (sound.attempt called)
      refine ⟨result.toOption, t.settle run result, ?_, gave, soundT.settle ready.native gave⟩
      simp only [perform_modify, perform_bind, ran, run, called, perform_pure]

theorem answers_within (implements : Implements registry scripts tree) (nesting : Nat) :
    Answers scripts tree (overrideWithin registry nesting) nesting := by
  induction nesting with
  | zero => exact fun busy v ready => absurd ready.enough (Nat.not_le.2 v.element.count_pos)
  | succ n ih => exact answers_succ implements ih

end

/-- A rendering gives what the tree means, if its hooks follow scripts. -/
theorem rendering_denotes (registry : Registry Memory) (scripts : Scripts) (tree : Frozen)
    (implements : Implements registry scripts tree) (nesting depth : Nat)
    (deep : tree.element.count ≤ nesting) (memory : Memory) :
    (rendering registry nesting depth tree memory).1 = some (denote scripts depth tree.element) := by
  have logic := returns_logic (Sound scripts tree [] : Session Memory → Prop)
  have answers := answers_within implements nesting
  have covered : Covered (Ready tree [] nesting) (some 0) tree.element.visit := by
    intro i e found
    have member := List.mem_of_getElem? found
    refine ⟨⟨member, fun k place => ?_⟩, by simp, Nat.le_trans (count_le member) deep⟩
    obtain rfl : i = k := by simpa using place
    exact found
  have whole : Returns (Sound scripts tree [])
      (render (overrideWithin registry nesting) depth (some 0) tree.element)
      (Means scripts depth ⟨tree.element, some 0⟩) :=
    render_shown logic (fun _ v ready rest => node_means (answers [] v ready) rest) depth (some 0)
      tree.element covered
  obtain ⟨markup, session, ran, means, _⟩ := whole { memory } (sound_start memory)
  rw [rendering, ran]
  exact congrArg some means

def card : Frozen where
  element :=
    { ((Element.of "div" "Card" "FRAME").withChildren
        [{ Element.of "i" "Star" "FRAME" with template := some "star" }]).withId "c" with
      template := some "card" }
  sound := by decide

/-- The outer hook asks for an edited copy of its element and for the element itself, the inner one
counts its runs. -/
def cardHooks : Registry Nat :=
  [("card", fun v => .generate ⟨{ v.element with tag := "section" }, none⟩ fun copy =>
      .generate v fun own => .finish (copy ++ own)),
   ("star", fun _ => .load fun runs => .store (runs + 1) (.finish "*"))]

def cardScripts : Scripts :=
  let inside (e c : Element) (part : c ∈ e.branches) : c ∈ e.descendants :=
    mem_descendants.2 ⟨c, part, mem_visit_self c⟩
  Dict.get? [
    ("card", fun e => .generate { e with tag := "section" } (inside e) fun copy =>
      .generate e (inside e) fun own => .finish (copy ++ own)),
    ("star", fun _ => .finish "*")]

theorem cardHooks_follow : Implements cardHooks cardScripts card := by
  intro e _ name _
  simp only [cardHooks, cardScripts, Dict.get?]
  split
  · refine .some fun v same genuine => ?_
    subst e
    exact .generate (fun k place => by cases place) _ fun copy =>
      .generate genuine _ fun own => .finish (copy ++ own)
  split
  · exact .some fun v same genuine => .load fun runs => .store (runs + 1) (.finish "*")
  · exact .none

theorem card_rendering_denotes :
    Implements cardHooks cardScripts card ∧ card.element.count ≤ 2 ∧
    (rendering cardHooks 2 0 card 0).1 = some (denote cardScripts 0 card.element) ∧
    denote cardScripts 0 card.element = "<section>\n  *\n</section><div>\n  *\n</div>" := by
  have deep : card.element.count ≤ 2 := by decide
  have denotes := rendering_denotes cardHooks cardScripts card cardHooks_follow 2 0 deep 0
  have evaluated : (rendering cardHooks 2 0 card 0).1 =
      some "<section>\n  *\n</section><div>\n  *\n</div>" := by decide +kernel
  exact ⟨cardHooks_follow, deep, denotes, Option.some.inj (denotes.symm.trans evaluated)⟩

end DesignMarkup.Markup
