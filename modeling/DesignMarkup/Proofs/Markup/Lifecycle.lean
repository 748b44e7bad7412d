import DesignMarkup.Markup.Traversal
/-!
The attempts under one key. In a consistent session each key is in one of three states: unseen, its
hook running, or its hook at its end; the entry kept for the key and the finding of its failure are those
of that state. Attempts start and end under this rule (`Consistent.attempt`, `Consistent.settle`).
-/
namespace DesignMarkup.Markup
variable {Memory : Type}

theorem key?_eq_id_iff {v : View} {id : String} :
    v.key? = some (.id id) ↔ v.element.id = some id := by
  unfold View.key?
  cases hasId : v.element.id with
  | none => cases v.place <;> simp
  | some other => simp

theorem key?_eq_place_iff {v : View} {n : Nat} :
    v.key? = some (.place n) ↔ v.element.id = none ∧ v.place = some n := by
  unfold View.key?
  cases hasId : v.element.id with
  | none => cases v.place <;> simp
  | some other => simp

def Event.key? : Event → Option Key
  | .attempt run _ => run.view.key?
  | .settle run _ => run.view.key?
  | _ => none

def Event.finding? : Event → Option Finding
  | .settle run result =>
    match result with
    | .ok _ => none
    | .error failure =>
      run.view.element.id.map fun id => Finding.hookFailure id run.hook failure
  | _ => none

def history (events : List Event) (key : Key) : List Event := events.filter (·.key? = some key)

/-- What a key went through, and the entry kept for it. -/
inductive Lifecycle : List Event → Option (Option String) → Prop where
  | unseen : Lifecycle [] none
  | running (run : Run) (called : Bool) : Lifecycle [.attempt run called] (some none)
  | ended (run : Run) (called : Bool) (result : Except HookFailure String) :
      Lifecycle [.attempt run called, .settle run result] (some result.toOption)

structure Session.Consistent (s : Session Memory) : Prop where
  lifecycle : ∀ key, Lifecycle (history s.events key) (s.recorded? (some key))
  findings : s.findings = s.events.filterMap Event.finding?

theorem history_snoc (events : List Event) (event : Event) (key : Key) :
    history (events ++ [event]) key =
      if event.key? = some key then history events key ++ [event] else history events key := by
  unfold history
  rw [List.filter_append]
  split <;> simp_all

/-- What is collected from the attempts under a key can be picked out of what is collected. -/
theorem collected_under_key {α : Type} {collect : Event → Option α} {belongs : α → Bool} {key : Key}
    (agree : ∀ event a, collect event = some a → belongs a = decide (event.key? = some key))
    (events : List Event) :
    (events.filterMap collect).filter belongs = (history events key).filterMap collect := by
  rw [history, List.filter_filterMap, List.filterMap_filter]
  congr
  funext event
  cases found : collect event with
  | none => simp
  | some a => simp [Option.filter, agree event a found]

theorem Lifecycle.eq_nil {events : List Event} (h : Lifecycle events none) : events = [] := by
  cases h
  rfl

namespace Session
variable (s : Session Memory) (run : Run) (called : Bool) (result : Except HookFailure String)

theorem recorded?_record (key : Option Key) (output : Option String) (k : Key) :
    (s.record key output).recorded? (some k) =
      if key = some k then some output else s.recorded? (some k) := by
  cases key with
  | none => rfl
  | some other =>
    by_cases same : other = k
    · subst other
      simp [record, recorded?]
    · have apart : (k == other) = false := by simpa using fun h : k = other => same h.symm
      simp [record, recorded?, List.lookup_cons, apart, same]

theorem recorded?_attempt (k : Key) : (s.attempt run called).recorded? (some k) =
    if run.view.key? = some k then some none else s.recorded? (some k) :=
  s.recorded?_record run.view.key? none k

theorem recorded?_settle (k : Key) : (s.settle run result).recorded? (some k) =
    match result with
    | .ok output => if run.view.key? = some k then some (some output) else s.recorded? (some k)
    | .error _ => s.recorded? (some k) := by
  cases result with
  | ok output => exact s.recorded?_record run.view.key? (some output) k
  | error failure =>
    simp only [settle, report]
    split <;> rfl

theorem recorded?_settle_own {k : Key} (same : run.view.key? = some k)
    (entry : s.recorded? (some k) = some none) :
    (s.settle run result).recorded? (some k) = some result.toOption := by
  rw [recorded?_settle]
  cases result with
  | ok output => exact if_pos same
  | error failure => exact entry

theorem recorded?_settle_other {k : Key} (apart : run.view.key? ≠ some k) :
    (s.settle run result).recorded? (some k) = s.recorded? (some k) := by
  rw [recorded?_settle]
  cases result with
  | ok output => exact if_neg apart
  | error failure => rfl

theorem events_attempt :
    (s.attempt run called).events = s.events ++ [.attempt run called] := by
  simp only [attempt, record]
  cases run.view.key? <;> rfl

theorem events_settle : (s.settle run result).events = s.events ++ [.settle run result] := by
  cases result with
  | ok output =>
    simp only [settle, record]
    cases run.view.key? <;> rfl
  | error failure =>
    simp only [settle, report]
    cases run.view.element.id <;> rfl

theorem findings_attempt : (s.attempt run called).findings = s.findings := by
  simp only [attempt, record]
  cases run.view.key? <;> rfl

theorem findings_settle : (s.settle run result).findings =
    s.findings ++ (Event.finding? (.settle run result)).toList := by
  cases result with
  | ok output =>
    simp only [settle, record, Event.finding?, Option.toList_none, List.append_nil]
    cases run.view.key? <;> rfl
  | error failure =>
    simp only [settle, report, Event.finding?]
    cases run.view.element.id <;> simp [note]

end Session

namespace Session.Consistent
variable {s : Session Memory}

theorem start (memory : Memory) : ({ memory } : Session Memory).Consistent where
  lifecycle _ := .unseen
  findings := rfl

theorem store (h : s.Consistent) (memory : Memory) : { s with memory }.Consistent where
  lifecycle := h.lifecycle
  findings := h.findings

theorem note (h : s.Consistent) {event : Event} (noKey : event.key? = none)
    (noFinding : event.finding? = none) : (s.note event).Consistent where
  lifecycle key := by
    have kept : history (s.note event).events key = history s.events key := by
      rw [Session.note, history_snoc, if_neg (by simp [noKey])]
    rw [kept]
    exact h.lifecycle key
  findings := by simp [Session.note, h.findings, noFinding]

theorem attempt (h : s.Consistent) {run : Run} (called : Bool)
    (unseen : s.recorded? run.view.key? = none) : (s.attempt run called).Consistent where
  lifecycle key := by
    rw [recorded?_attempt, events_attempt, history_snoc]
    change Lifecycle (if run.view.key? = some key then _ else _) _
    by_cases same : run.view.key? = some key
    · have before := h.lifecycle key
      rw [← same, unseen] at before
      rw [if_pos same, if_pos same, before.eq_nil]
      exact .running run called
    · rw [if_neg same, if_neg same]
      exact h.lifecycle key
  findings := by
    rw [findings_attempt, events_attempt, List.filterMap_append, h.findings]
    simp [Event.finding?]

theorem settle (h : s.Consistent) {run : Run} (called : Bool)
    (result : Except HookFailure String)
    (running : ∀ key, run.view.key? = some key →
      history s.events key = [.attempt run called] ∧ s.recorded? (some key) = some none) :
    (s.settle run result).Consistent where
  lifecycle key := by
    rw [events_settle, history_snoc]
    change Lifecycle (if run.view.key? = some key then _ else _) _
    by_cases same : run.view.key? = some key
    · obtain ⟨alone, entry⟩ := running key same
      rw [if_pos same, alone, recorded?_settle_own s run result same entry]
      exact .ended run called result
    · rw [if_neg same, recorded?_settle_other s run result same]
      exact h.lifecycle key
  findings := by
    rw [findings_settle, events_settle, List.filterMap_append, h.findings]
    cases found : (Event.settle run result).finding? <;> simp [found]

end Session.Consistent
end DesignMarkup.Markup
