import DesignMarkup.Proofs.Markup.Comparison
import DesignMarkup.Proofs.Markup.RunCount
import Mathlib.Data.List.Induction
/-!
A hook may ask for an element that holds its own element again, so what is asked for need not get
smaller. Renderings come to an end all the same if the overridden elements in all that hooks ask for
have keys from a fixed list: a hook that runs takes its key off the list of those that are open.
-/
namespace DesignMarkup.Markup
open Element
variable {Memory : Type}

section
variable (tree : Frozen) (ids : List String)

/-- An element of the tree at its place, or one with an id of the list. -/
def Listed (v : View) : Prop :=
  View.Contains ⟨tree.element, some 0⟩ v ∨ ∃ id ∈ ids, v.element.id = some id

/-- Whatever the element itself is, the overridden elements below it are listed. -/
def Confined (v : View) : Prop :=
  ∀ w, v.Above w → w.element.template.isSome → Listed tree ids w

/-- No hook that runs for a listed element asks for an element that is not confined, if its own
element is. -/
def AsksConfined (registry : Registry Memory) : Prop :=
  ∀ name hook, registry.get? name = some hook → ∀ v, v.element.template = some name →
    Listed tree ids v → Confined tree ids v → ∀ w, (hook v).Asks w → Confined tree ids w

structure Expected (v : View) : Prop where
  confined : Confined tree ids v
  listed : v.element.template.isSome → Listed tree ids v

def listedKeys : List Key :=
  (View.all ⟨tree.element, some 0⟩).filterMap View.key? ++ ids.map .id

end

section
variable {tree : Frozen} {ids : List String} {v w : View}

theorem Confined.expected (confined : Confined tree ids v) (above : v.Above w) :
    Expected tree ids w where
  confined x below := confined x (above.trans_contains below.contains)
  listed := confined w above

theorem expected_of_contains (inside : View.Contains ⟨tree.element, some 0⟩ v) :
    Expected tree ids v where
  confined _ below _ := .inl (inside.trans below.contains)
  listed _ := .inl inside

theorem Listed.key (listed : Listed tree ids v) : ∃ key ∈ listedKeys tree ids, v.key? = some key := by
  rcases listed with inside | ⟨id, member, hasId⟩
  · obtain ⟨key, hasKey⟩ := Option.isSome_iff_exists.1 (inside.key?_isSome rfl)
    refine ⟨key, List.mem_append_left _ ?_, hasKey⟩
    exact List.mem_filterMap.2 ⟨v, View.mem_all.2 inside, hasKey⟩
  · refine ⟨.id id, List.mem_append_right _ (List.mem_map_of_mem member), ?_⟩
    exact key?_eq_id_iff.2 hasId

theorem listedKeys_length_le (tree : Frozen) (ids : List String) :
    (listedKeys tree ids).length ≤ tree.element.count + ids.length := by
  rw [listedKeys, List.length_append, List.length_map]
  have fewer := List.length_filterMap_le View.key? (View.all ⟨tree.element, some 0⟩)
  rw [View.all, List.length_mapIdx, ← count] at fewer
  exact Nat.add_le_add_right fewer _

end

/-- The keys under which no hook has run. -/
def Session.openKeys (keys : List Key) (s : Session Memory) : List Key :=
  keys.filter fun key => (s.recorded? (some key)).isNone

def Open (keys : List Key) (n : Nat) (s : Session Memory) : Prop := (s.openKeys keys).length ≤ n

section
variable {keys : List Key} {s : Session Memory} {run : Run} {n : Nat}

theorem openKeys_attempt (called : Bool) {key : Key} (member : key ∈ keys)
    (hasKey : run.view.key? = some key) (unseen : s.recorded? (some key) = none) :
    ((s.attempt run called).openKeys keys).length < (s.openKeys keys).length := by
  have rest : (s.attempt run called).openKeys keys = (s.openKeys keys).filter (· ≠ key) := by
    unfold Session.openKeys
    rw [List.filter_filter]
    refine List.filter_congr fun other _ => ?_
    rw [Session.recorded?_attempt, hasKey]
    by_cases same : key = other <;> simp [same, eq_comm]
  rw [rest, List.length_filter_lt_length_iff_exists]
  exact ⟨key, List.mem_filter.2 ⟨member, by simp [unseen]⟩, by simp⟩

theorem openKeys_settle (result : Except HookFailure String) :
    ((s.settle run result).openKeys keys).length ≤ (s.openKeys keys).length := by
  unfold Session.openKeys
  rw [← List.countP_eq_length_filter, ← List.countP_eq_length_filter]
  refine List.countP_mono_left fun key _ none => ?_
  rw [Session.recorded?_settle] at none
  cases result with
  | ok output =>
    simp only at none
    split at none
    · cases none
    · exact none
  | error failure => exact none

theorem write_returns (depth : Nat) (v : View) (text : String) :
    Returns (Open keys n) (write depth v text : Rendering Memory String) fun _ => True :=
  fun s isOpen => ⟨text, _, perform_write depth v text s, trivial, isOpen⟩

theorem delegation_returns {generate : View → Rendering Memory String} (d : Delegation Memory)
    (answered : ∀ v, d.Asks v → Returns (Open keys n) (generate v) fun _ => True) :
    Returns (Open keys n) (runDelegation generate d) fun _ => True := by
  have logic := returns_logic (Open keys n : Session Memory → Prop)
  induction d with
  | finish | fail | panic => exact logic.pure trivial
  | generate view next ih =>
    refine logic.bind (answered view (.now view next)) fun text _ => ?_
    exact ih text fun v asks => answered v (.generate text asks)
  | load next ih =>
    intro s isOpen
    exact ih s.memory (fun v asks => answered v (.load s.memory asks)) s isOpen
  | store memory next ih =>
    refine logic.bind (Returns.modify fun s isOpen => isOpen) fun _ _ => ?_
    exact ih fun v asks => answered v (.store memory asks)

end

section
variable {registry : Registry Memory} {tree : Frozen} {ids : List String}

theorem node_returns {keys : List Key} {n depth : Nat} {override : Override Memory} {v : View}
    {formed : String → Prop} (gave : Returns (Open keys n) (override v) fun _ => True)
    (rest : Returns (Open keys n) (renderDefault override depth v) formed) :
    Returns (Open keys n) (render override depth v.place v.element) (anyText depth v) :=
  render_node (returns_logic _) gave rest (fun text _ => write_returns depth v text)
    fun text _ _ => write_returns depth v text

/-- One override, if the hook that it calls comes to an end with one key less open. -/
theorem overrideBy_returns {inner : Option (Override Memory)} {n : Nat} {v : View}
    (expected : Expected tree ids v)
    (invoked : ∀ m hook, m + 1 = n → v.element.template = some hook →
      Returns (Open (listedKeys tree ids) m) (invoke registry inner ⟨hook, v⟩) fun _ => True) :
    Returns (Open (listedKeys tree ids) n) (overrideBy registry inner v) fun _ => True := by
  intro s isOpen
  unfold overrideBy
  cases bound : v.element.template with
  | none => exact ⟨none, s, rfl, trivial, isOpen⟩
  | some hook =>
    simp only [perform_bind, perform_get]
    cases unseen : s.recorded? v.key? with
    | some output => exact ⟨output, s, rfl, trivial, isOpen⟩
    | none =>
      let run : Run := ⟨hook, v⟩
      let called := registry.contains hook
      obtain ⟨key, member, hasKey⟩ := (expected.listed (by simp [bound])).key
      rw [hasKey] at unseen
      have fewer : ((s.attempt run called).openKeys (listedKeys tree ids)).length <
          (s.openKeys (listedKeys tree ids)).length :=
        openKeys_attempt called member hasKey unseen
      obtain ⟨m, rfl⟩ : ∃ m, m + 1 = n := ⟨n - 1, by unfold Open at isOpen; omega⟩
      obtain ⟨result, t, ran, -, isOpenT⟩ := invoked m hook rfl bound (s.attempt run called)
        (by unfold Open at isOpen ⊢; omega)
      refine ⟨result.toOption, t.settle run result, ?_, trivial, ?_⟩
      · simp only [perform_modify, perform_bind, ran, run, called, perform_pure]
      · have kept : ((t.settle run result).openKeys (listedKeys tree ids)).length ≤
            (t.openKeys (listedKeys tree ids)).length := openKeys_settle result
        unfold Open at isOpenT ⊢
        omega

theorem override_returns (asks : AsksConfined tree ids registry) (n : Nat) :
    ∀ v, Expected tree ids v →
      Returns (Open (listedKeys tree ids) n) (overrideWithin registry n v) fun _ => True := by
  induction n with
  | zero => exact fun v expected => overrideBy_returns expected fun m hook => by omega
  | succ n ih =>
    refine fun v expected => overrideBy_returns expected fun m hook same bound => ?_
    obtain rfl : m = n := by omega
    have logic := returns_logic (Open (listedKeys tree ids) m : Session Memory → Prop)
    unfold invoke
    cases registered : registry.get? hook with
    | none => exact logic.pure trivial
    | some call =>
      refine delegation_returns _ fun w asked => ?_
      have confined : Confined tree ids w :=
        asks hook call registered v bound (expected.listed (by simp [bound])) expected.confined w asked
      have node : ∀ depth u, Expected tree ids u →
          Returns (Open (listedKeys tree ids) m) (renderDefault (overrideWithin registry m) depth u)
            (FormText anyText depth u) →
          Returns (Open (listedKeys tree ids) m)
            (render (overrideWithin registry m) depth u.place u.element) (anyText depth u) :=
        fun depth u isExpected rest => node_returns (ih u isExpected) rest
      refine logic.bind (Returns.modify fun s isOpen => isOpen) fun _ _ => ?_
      refine logic.mono (renderDefault_shown logic node 0 w ?_) fun _ _ => trivial
      exact (above_covers w).mono fun u above => confined.expected above

theorem rendering_returns (asks : AsksConfined tree ids registry) (depth : Nat) (memory : Memory) :
    ∃ markup session, rendering registry (tree.element.count + ids.length) depth tree memory =
      (some markup, session) := by
  let bound := tree.element.count + ids.length
  have node : ∀ depth v, Expected tree ids v →
      Returns (Open (listedKeys tree ids) bound)
        (renderDefault (overrideWithin registry bound) depth v) (FormText anyText depth v) →
      Returns (Open (listedKeys tree ids) bound)
        (render (overrideWithin registry bound) depth v.place v.element) (anyText depth v) :=
    fun depth v expected rest => node_returns (override_returns asks bound v expected) rest
  have returns := render_shown (returns_logic _) node depth (some 0) tree.element
    ((contains_covers ⟨tree.element, some 0⟩).mono fun v inside => expected_of_contains inside)
  obtain ⟨markup, session, ran, -, -⟩ := returns { memory }
    (Nat.le_trans (List.length_filter_le ..) (listedKeys_length_le tree ids))
  exact ⟨markup, session, ran⟩

end

/-- The attempts that have not ended, the innermost first; an end is that of the innermost attempt
with its key. -/
def Event.pending (attempts : List (Run × Bool)) : Event → List (Run × Bool)
  | .attempt run called => (run, called) :: attempts
  | .settle run _ => attempts.eraseP (·.1.view.key? = run.view.key?)
  | _ => attempts

def inProgress (events : List Event) : List Run :=
  ((events.foldl Event.pending []).filter (·.2)).map (·.1)

theorem inProgress_sublist (events : List Event) :
    (inProgress events).reverse.Sublist (events.filterMap Event.run?) := by
  induction events using List.reverseRecOn with
  | nil => exact .slnil
  | append_singleton events event ih =>
    unfold inProgress at ih ⊢
    rw [List.foldl_append, List.filterMap_append]
    cases event with
    | attempt run called =>
      cases called with
      | true => simpa [Event.pending, Event.run?] using ih.append_right [run]
      | false => simpa [Event.pending, Event.run?] using ih
    | settle run result =>
      have fewer := ((List.eraseP_sublist (p := fun a : Run × Bool => a.1.view.key? = run.view.key?)
        (l := events.foldl Event.pending [])).filter (·.2)).map (·.1)
      simpa [Event.pending, List.filterMap_cons, Event.run?] using fewer.reverse.trans ih
    | generate | written => simpa [Event.pending, List.filterMap_cons, Event.run?] using ih

section
variable {registry : Registry Memory} {tree : Frozen} {ids : List String}

theorem runs_expected (asks : AsksConfined tree ids registry) (nesting depth : Nat)
    (memory : Memory) : ∀ run ∈ (rendering registry nesting depth tree memory).2.runs,
      Expected tree ids run.view ∧ run.view.element.template.isSome :=
  runs_known (fun v inside => expected_of_contains inside)
    fun name hook registered v w bound asked expected u above =>
      have listed := expected.listed (by simp [bound])
      (asks name hook registered v bound listed expected.confined w asked).expected above

/-- Renderings come to an end, although hooks may ask for their own elements again. However deep
hooks are nested, those that are running at any moment have keys, and no two of them have the same. -/
theorem confined_rendering_ends [Inhabited Memory] (registry : Registry Memory) (tree : Frozen)
    (ids : List String) (asks : AsksConfined tree ids registry) (depth : Nat) (memory : Memory) :
    (∃ rendered, ∀ nesting, tree.element.count + ids.length ≤ nesting →
      renderAt? registry nesting depth tree memory = some rendered) ∧
    ∀ nesting before after,
      (rendering registry nesting depth tree memory).2.events = before ++ after →
      (∀ run ∈ inProgress before, run.view.key?.isSome) ∧
      (inProgress before).Pairwise fun outer inner => outer.view.key? ≠ inner.view.key? := by
  constructor
  · obtain ⟨markup, session, ran⟩ := rendering_returns asks depth memory
    refine ⟨⟨markup, session.findings, session.runs⟩, fun nesting deep => ?_⟩
    rw [renderAt?, rendering_extends registry deep depth tree memory ran]
  · intro nesting before after split
    let session := (rendering registry nesting depth tree memory).2
    have consistent : session.Consistent :=
      (rendering_walks registry nesting depth tree memory).consistent (.start memory)
    have sublist : (inProgress before).reverse.Sublist session.runs := by
      rw [Session.runs, split, List.filterMap_append]
      exact (inProgress_sublist before).trans (List.sublist_append_left ..)
    have keyed : ∀ run ∈ inProgress before, run.view.key?.isSome := by
      intro run running
      have ran : run ∈ session.runs := sublist.subset (List.mem_reverse.2 running)
      obtain ⟨expected, hooked⟩ := runs_expected asks nesting depth memory run ran
      obtain ⟨key, -, hasKey⟩ := (expected.listed hooked).key
      simp [hasKey]
    refine ⟨keyed, ?_⟩
    have apart := (List.pairwise_filterMap.1 (keys_nodup consistent.one_run)).sublist sublist
    refine (List.pairwise_reverse.1 apart).imp_of_mem fun {outer inner} running _ distinct same => ?_
    obtain ⟨key, hasKey⟩ := Option.isSome_iff_exists.1 (keyed outer running)
    exact distinct key (same ▸ hasKey) key hasKey rfl

end

/-- An element whose hook puts it into a frame, where its hook would run again. -/
def echoed : Frozen where
  element :=
    { ((Element.of "b" "Echo" "FRAME").withChildren
        [{ (Element.of "i" "Star" "FRAME").withId "s" with template := some "star" }]).withId "e" with
      template := some "echo" }
  sound := by decide

def echoHooks : Registry :=
  [("echo", fun v => .generate ⟨(Element.of "div" "Frame" "FRAME").withChildren [v.element], none⟩
      .finish),
   ("star", fun _ => .finish "*")]

theorem echoHooks_askConfined : AsksConfined echoed ["e", "s"] echoHooks := by
  intro name hook registered v bound listed confined w asks
  -- All overridden elements of the tree have ids, so that their copies are listed as well.
  have carried (u : View) (isListed : Listed echoed ["e", "s"] u)
      (hooked : u.element.template.isSome) : ∃ id ∈ ["e", "s"], u.element.id = some id := by
    rcases isListed with inside | carries
    · have all : ∀ e ∈ echoed.element.visit, e.template.isSome →
          ∃ id ∈ ["e", "s"], e.id = some id := by decide
      exact all _ inside.mem_visit hooked
    · exact carries
  simp only [echoHooks, Dict.get?] at registered
  split at registered
  · cases registered
    cases asks with
    | generate _ rest => cases rest
    | now =>
      intro u above hooked
      right
      obtain ⟨c, branch, inside⟩ := mem_descendants.1 above.mem_descendants
      obtain rfl : c = v.element := List.mem_singleton.1 branch
      rw [visit_eq] at inside
      rcases List.mem_cons.1 inside with same | below
      · rw [same] at hooked ⊢
        exact carried v listed hooked
      · obtain ⟨i, found⟩ := List.mem_iff_getElem?.1 below
        have original := carried _ (confined _ (above_covers v i u.element found) hooked) hooked
        exact original
  split at registered
  · cases registered
    cases asks
  · cases registered

/-- In the frame the element is in its default form, as its hook is still running. -/
theorem echoed_rendering_ends :
    AsksConfined echoed ["e", "s"] echoHooks ∧
    (∃ rendered, ∀ nesting, echoed.element.count + 2 ≤ nesting →
      renderAt? echoHooks nesting 0 echoed = some rendered) ∧
    (renderAt? echoHooks 4 0 echoed).map (·.markup) =
      some "<div>\n  <b>\n    *\n  </b>\n</div>" ∧
    ∀ before after, (rendering echoHooks 4 0 echoed ()).2.events = before ++ after →
      (inProgress before).Pairwise fun outer inner => outer.view.key? ≠ inner.view.key? := by
  obtain ⟨ends, moments⟩ :=
    confined_rendering_ends echoHooks echoed ["e", "s"] echoHooks_askConfined 0 ()
  refine ⟨echoHooks_askConfined, ends, by decide +kernel, fun before after split => ?_⟩
  exact (moments 4 before after split).2

end DesignMarkup.Markup
