import DesignMarkup.Proofs.Markup.Walk
/-!
How often a hook runs, and what is seen of it afterwards. Under one key there is at most one attempt
in a rendering; all that is written for the key agrees with it.
-/
namespace DesignMarkup.Markup
variable {Memory : Type} {registry : Registry Memory} {stage : Stage} {s t : Session Memory}

theorem runs_under_key (events : List Event) (key : Key) :
    (events.filterMap Event.run?).filter (fun run => run.view.key? = some key) =
      (history events key).filterMap Event.run? := by
  refine collected_under_key (fun event run found => ?_) events
  cases event with
  | attempt other called =>
    obtain ⟨-, rfl⟩ : called = true ∧ other = run := by simpa [Event.run?] using found
    rfl
  | _ => simp [Event.run?] at found

theorem Lifecycle.one_run {events : List Event} {record : Option (Option String)}
    (cycle : Lifecycle events record) : (events.filterMap Event.run?).length ≤ 1 := by
  cases cycle with
  | unseen => simp
  | running run called => cases called <;> simp [Event.run?]
  | ended run called result => cases called <;> simp [Event.run?, List.filterMap_cons]

def Honest (registry : Registry Memory) (events : List Event) : Prop :=
  ∀ before depth v text after, events = before ++ .written depth v text :: after →
    AsRecorded registry depth v text before

theorem Honest.snoc {events : List Event} (honest : Honest registry events) {event : Event}
    (last : ∀ depth v text, event = .written depth v text →
      AsRecorded registry depth v text events) : Honest registry (events ++ [event]) := by
  intro before depth v text after split
  rcases List.eq_nil_or_concat after with rfl | ⟨earlier, final, rfl⟩
  · obtain ⟨rfl, same⟩ := List.append_inj' split rfl
    exact last depth v text (by simpa using same)
  · rw [List.concat_eq_append, ← List.cons_append, ← List.append_assoc] at split
    obtain ⟨same, -⟩ := List.append_inj' split rfl
    exact honest before depth v text earlier same

theorem Walk.honest (walk : Walk registry stage s t) (honest : Honest registry s.events) :
    Honest registry t.events := by
  induction walk with
  | refl => exact honest
  | trans first second ih ih' => exact ih' (ih honest)
  | written isKnown asRecorded =>
    refine honest.snoc fun depth v text same => ?_
    cases same
    exact asRecorded
  | attempt _ _ _ running ih =>
    rw [Session.events_attempt] at ih
    exact ih (honest.snoc fun _ _ _ same => by cases same)
  | settle _ _ _ running outcome ih =>
    rw [Session.events_attempt] at ih
    rw [Session.events_settle]
    exact (ih (honest.snoc fun _ _ _ same => by cases same)).snoc fun _ _ _ same => by cases same
  | generate _ inside ih => exact ih (honest.snoc fun _ _ _ same => by cases same)
  | store => exact honest

theorem write_last {m : Rendering Memory String} {depth : Nat} {v : View} {text : String}
    (ended : perform (m >>= write depth v) s = (some text, t)) :
    t.events.getLast? = some (.written depth v text) := by
  rw [perform_bind] at ended
  split at ended
  · rw [perform_write] at ended
    cases ended
    simp [Session.note]
  · cases ended

theorem render_last {override : Override Memory} {depth : Nat} {v : View} {text : String}
    (ended : perform (render override depth v.place v.element) s = (some text, t)) :
    t.events.getLast? = some (.written depth v text) := by
  rw [render_eq, perform_bind] at ended
  split at ended
  · rename_i output u _
    cases output with
    | none => exact write_last ended
    | some output => exact write_last (m := pure output) (by rwa [pure_bind])
  · cases ended

theorem Session.Consistent.one_run (consistent : s.Consistent) (key : Key) :
    (s.runs.filter fun run => run.view.key? = some key).length ≤ 1 := by
  rw [Session.runs, runs_under_key]
  exact (consistent.lifecycle key).one_run

/-- No hook runs twice under one key. All that is written under the key is what the hook gave, or
the default form while it runs and after it failed. -/
theorem hooks_run_once_per_key (registry : Registry Memory) (nesting depth : Nat) (tree : Frozen)
    (memory : Memory) :
    let session := (rendering registry nesting depth tree memory).2
    (∀ key, (session.runs.filter fun run => run.view.key? = some key).length ≤ 1) ∧
    (∀ key, ∃ record, Lifecycle (history session.events key) record) ∧
    (∀ event ∈ session.events, event.Justified registry) ∧
    (∀ before d v text after, session.events = before ++ .written d v text :: after →
      v.element.template.isSome → ∀ key, v.key? = some key → ∃ record,
        Lifecycle (history before key) (some record) ∧
          match record with
          | some output => text = output
          | none => IsDefault registry d v text before) ∧
    ∀ markup, (rendering registry nesting depth tree memory).1 = some markup →
      session.events.getLast? = some (.written depth ⟨tree.element, some 0⟩ markup) := by
  intro session
  have walk := rendering_walks registry nesting depth tree memory
  have consistent : session.Consistent := walk.consistent (.start memory)
  have honest : Honest registry session.events := walk.honest (by simp [Honest])
  exact ⟨consistent.one_run, fun key => ⟨_, consistent.lifecycle key⟩, walk.justified (by simp),
    honest, fun markup ended => render_last (Prod.ext ended rfl)⟩

def starred : Element :=
  { (Element.of "b" "Star" "FRAME").withId "s" with template := some "star" }

def framed : Frozen where
  element :=
    { ((Element.of "div" "Frame" "FRAME").withChildren [starred]).withId "f" with
      template := some "frame" }
  sound := by decide

/-- The outer hook fails after it had its element twice, on copies. -/
def frameHooks : Registry :=
  [("frame", fun v => .generate v.copy fun _ => .generate v.copy fun _ => .fail "no frame"),
   ("star", fun _ => .finish "*")]

theorem hook_output_outlasts_failure :
    let session := (rendering frameHooks 2 0 framed ()).2
    (session.runs.filter fun run => run.view.key? = some (.id "s")).length ≤ 1 ∧
    ∃ record, Lifecycle (history (session.events.take 8) (.id "s")) (some record) ∧
      match record with
      | some output => "*" = output
      | none => IsDefault frameHooks 1 ⟨starred, some 1⟩ "*" (session.events.take 8) := by
  intro session
  have split : session.events = session.events.take 8 ++
      .written 1 ⟨starred, some 1⟩ "*" :: session.events.drop 9 := by with_unfolding_all rfl
  obtain ⟨once, _, _, written, _⟩ := hooks_run_once_per_key frameHooks 2 0 framed ()
  exact ⟨once (.id "s"), written _ 1 ⟨starred, some 1⟩ "*" _ split rfl (.id "s") rfl⟩

end DesignMarkup.Markup
