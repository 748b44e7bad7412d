import DesignMarkup.Proofs.Layer.Hidden
import DesignMarkup.Proofs.Layer.Soundness
import DesignMarkup.Proofs.Layer.WithoutHidden
import Mathlib.Data.List.Lex
/-!
The text of a mapped component: of the texts below it the first in pre-order, which is an order of their
paths. What is hidden is not searched, nor what is below a text; a text without characters is passed over.
-/
namespace DesignMarkup
namespace Layer

/-- Pre-order: a layer stands before all that is below it, and what is below a child before the next
child. -/
def Precedes (p q : List Nat) : Prop := List.Lex (· < ·) p q

/-- The search comes to the layer at the path: none of those below the root is hidden, up to this layer,
and none of those above it is a text. The root itself may be hidden. -/
structure Searched (root : Layer) (path : List Nat) (l : Layer) : Prop where
  layer : root.below? path = some l
  visible : root.visibleAlong path = true
  outside : ∀ above x, above <+: path → above ≠ path → root.below? above = some x → x.isText = false

def TellsAt (root : Layer) (path : List Nat) (text : String) : Prop :=
  ∃ l, root.Searched path l ∧ l.isText = true ∧ l.characters = some text

def TellsFirstAt (root : Layer) (path : List Nat) (text : String) : Prop :=
  root.TellsAt path text ∧ ∀ before other, Precedes before path → ¬ root.TellsAt before other

theorem not_precedes_nil (p : List Nat) : ¬ Precedes p [] := List.not_lex_nil

theorem precedes_cons {i j : Nat} {p q : List Nat} :
    Precedes (i :: p) (j :: q) ↔ i < j ∨ i = j ∧ Precedes p q := List.cons_lex_cons_iff

theorem eq_of_not_precedes {p q : List Nat} (left : ¬ Precedes p q) (right : ¬ Precedes q p) : p = q :=
  Std.Trichotomous.trichotomous (r := List.Lex (· < ·)) p q left right

section
variable {root l : Layer} {i : Nat} {path : List Nat} {text : String}

theorem searched_nil : root.Searched [] l ↔ root = l := by
  constructor
  · intro searched
    exact Option.some.inj searched.layer
  · rintro rfl
    refine ⟨rfl, rfl, fun above x begins shorter => ?_⟩
    exact absurd (List.prefix_nil.1 begins) shorter

theorem searched_cons : root.Searched (i :: path) l ↔ root.isText = false ∧
    ∃ child, root.children[i]? = some child ∧ child.visible = true ∧ child.Searched path l := by
  constructor
  · rintro ⟨layer, visible, outside⟩
    obtain ⟨child, at_, below⟩ := Option.bind_eq_some_iff.1 layer
    rw [visibleAlong, at_, Option.any_some, Bool.and_eq_true] at visible
    have container : root.isText = false :=
      outside [] root List.nil_prefix (List.cons_ne_nil i path).symm rfl
    refine ⟨container, child, at_, visible.1, below, visible.2, ?_⟩
    intro above x begins shorter found
    refine outside (i :: above) x (List.cons_prefix_cons.2 ⟨rfl, begins⟩) ?_ ?_
    · exact fun same => shorter (List.cons.inj same).2
    · rw [below?, at_, Option.bind_some, found]
  · rintro ⟨container, child, at_, shows, below, visible, outside⟩
    refine ⟨?_, ?_, fun above x begins shorter found => ?_⟩
    · rw [below?, at_, Option.bind_some, below]
    · rw [visibleAlong, at_, Option.any_some, shows, visible]
      rfl
    · cases above with
      | nil =>
        obtain rfl := Option.some.inj found
        exact container
      | cons j above =>
        obtain ⟨rfl, rest⟩ := List.cons_prefix_cons.1 begins
        rw [below?, at_, Option.bind_some] at found
        exact outside above x rest (fun same => shorter (congrArg _ same)) found

theorem tellsAt_text (kind : root.isText = true) :
    root.TellsAt path text ↔ path = [] ∧ root.characters = some text := by
  unfold TellsAt
  cases path with
  | nil => simp [searched_nil, kind]
  | cons i path => simp [searched_cons, kind]

theorem tellsAt_container (kind : root.isText = false) :
    root.TellsAt path text ↔ ∃ i rest child, path = i :: rest ∧ root.children[i]? = some child ∧
      child.visible = true ∧ child.TellsAt rest text := by
  unfold TellsAt
  cases path with
  | nil => simp [searched_nil, kind]
  | cons i path =>
    simp only [searched_cons, kind, true_and]
    constructor
    · rintro ⟨l, ⟨child, at_, shows, searched⟩, own⟩
      exact ⟨i, path, child, rfl, at_, shows, l, searched, own⟩
    · rintro ⟨_, _, child, same, at_, shows, l, searched, own⟩
      obtain ⟨rfl, rfl⟩ := List.cons.inj same
      exact ⟨l, ⟨child, at_, shows, searched⟩, own⟩

theorem firstText_of_isText (kind : l.isText = true) : l.firstText = l.characters := by
  rw [firstText_eq]
  exact if_pos kind

theorem firstText_of_container (kind : l.isText = false) : l.firstText =
    l.children.findSome? fun child => if child.visible then child.firstText else none := by
  rw [firstText_eq, List.filterMap_filter, List.head?_filterMap]
  exact if_neg (ne_true_of_eq_false kind)

theorem firstText_eq_none_iff (root : Layer) :
    root.firstText = none ↔ ∀ path text, ¬ root.TellsAt path text := by
  induction root using induction_below with
  | step root ih =>
    cases kind : root.isText with
    | true =>
      rw [firstText_of_isText kind, Option.eq_none_iff_forall_ne_some]
      simp only [tellsAt_text kind, not_and]
      exact ⟨fun bare path text _ => bare text, fun silent text => silent [] text rfl⟩
    | false =>
      rw [firstText_of_container kind, List.findSome?_eq_none_iff]
      constructor
      · intro vain path text tells
        obtain ⟨i, rest, child, rfl, at_, shows, below⟩ := (tellsAt_container kind).1 tells
        have member := List.mem_of_getElem? at_
        have nothing := vain child member
        rw [if_pos shows] at nothing
        exact (ih child member).1 nothing rest text below
      · intro silent child member
        rw [ite_eq_right_iff]
        intro shows
        obtain ⟨i, at_⟩ := List.mem_iff_getElem?.1 member
        refine (ih child member).2 fun rest text below => silent (i :: rest) text ?_
        exact (tellsAt_container kind).2 ⟨i, rest, child, rfl, at_, shows, below⟩

theorem tellsFirstAt_of_firstText (found : root.firstText = some text) :
    ∃ path, root.TellsFirstAt path text := by
  induction root using induction_below with
  | step root ih =>
    cases kind : root.isText with
    | true =>
      rw [firstText_of_isText kind] at found
      refine ⟨[], (tellsAt_text kind).2 ⟨rfl, found⟩, fun before other precedes => ?_⟩
      exact absurd precedes (not_precedes_nil before)
    | false =>
      rw [firstText_of_container kind] at found
      obtain ⟨passed, child, later, split, own, silent⟩ := List.findSome?_eq_some_iff.1 found
      obtain ⟨shows, own⟩ := Option.ite_none_right_eq_some.1 own
      have at_ : root.children[passed.length]? = some child := by simp [split]
      obtain ⟨rest, tells, first⟩ := ih child (List.mem_of_getElem? at_) own
      refine ⟨passed.length :: rest, ?_, ?_⟩
      · exact (tellsAt_container kind).2 ⟨_, rest, child, rfl, at_, shows, tells⟩
      · intro before other precedes told
        obtain ⟨j, q, sibling, rfl, there, visible, below⟩ := (tellsAt_container kind).1 told
        rcases precedes_cons.1 precedes with left | ⟨rfl, deeper⟩
        -- The children before this one were searched in vain.
        · rw [split, List.getElem?_append_left left] at there
          have nothing := silent sibling (List.mem_of_getElem? there)
          rw [if_pos visible] at nothing
          exact (firstText_eq_none_iff sibling).1 nothing q other below
        · obtain rfl := Option.some.inj (at_.symm.trans there)
          exact first q other deeper below

theorem TellsAt.text_unique {other : String} (tells : root.TellsAt path text)
    (again : root.TellsAt path other) : text = other := by
  obtain ⟨l, here, _, own⟩ := tells
  obtain ⟨x, there, _, same⟩ := again
  obtain rfl := Option.some.inj (here.layer.symm.trans there.layer)
  exact Option.some.inj (own.symm.trans same)

theorem TellsFirstAt.text_unique {q : List Nat} {other : String} (first : root.TellsFirstAt path text)
    (second : root.TellsFirstAt q other) : text = other := by
  have same : path = q := by
    refine eq_of_not_precedes ?_ ?_
    · exact fun precedes => second.2 path text precedes first.1
    · exact fun precedes => first.2 q other precedes second.1
  subst same
  exact first.1.text_unique second.1

theorem firstText_eq_some_iff : root.firstText = some text ↔ ∃ path, root.TellsFirstAt path text := by
  constructor
  · exact tellsFirstAt_of_firstText
  · rintro ⟨path, first⟩
    cases found : root.firstText with
    | none => exact absurd first.1 ((firstText_eq_none_iff root).1 found path text)
    | some other =>
      obtain ⟨q, second⟩ := tellsFirstAt_of_firstText found
      rw [first.text_unique second]

end

theorem emitComponent_content (l : Layer) (parent : Option ParentFrame) (m : ComponentMapping) :
    (l.emitComponent parent m).tree.content = l.firstText.elim (.children []) .text := by
  unfold emitComponent
  cases l.firstText with
  | some text => rfl
  | none =>
    obtain ⟨attributes, same⟩ := l.withProperties_attributes (l.componentBase parent m)
    exact (congrArg Element.content same).trans (l.bareElement_content m.exportName)

end Layer

/-- The search gives the characters of the text that is first in pre-order, and nothing exactly if it
comes to no text with characters. A mapped component shows what the search gives, or it is empty. -/
theorem component_shows_first_text (root : Layer) :
    (∀ text, root.firstText = some text ↔ ∃ path, root.TellsFirstAt path text) ∧
    (root.firstText = none ↔ ∀ path text, ¬ root.TellsAt path text) ∧
    ∀ c parent m, root.form c = .component m →
      (root.emit c parent).tree.content = root.firstText.elim (.children []) .text := by
  refine ⟨fun text => Layer.firstText_eq_some_iff, root.firstText_eq_none_iff, ?_⟩
  intro c parent m component
  rw [Layer.emit_eq, component]
  exact root.emitComponent_content parent m

/-- Before the text that counts come one that is hidden, one without characters and one below it. -/
def labelledChip : Layer :=
  placed "INSTANCE" "Chip" "1:1"
    [{ kind := "TEXT", visible := false, characters := some "Old" },
      placed "FRAME" "Labels" "1:2"
        [{ kind := "TEXT", children := [{ kind := "TEXT", characters := some "Hint" }] },
          { kind := "TEXT", characters := some "New" }],
      { kind := "TEXT", characters := some "More" }]

theorem labelled_chip_shows_text :
    labelledChip.form toolbarConfig = .component ⟨"Chip", "ui", none, false⟩ ∧
    (∃ path, labelledChip.TellsFirstAt path "New") ∧
    (labelledChip.emit toolbarConfig none).tree.content = .text "New" := by
  have component : labelledChip.form toolbarConfig = .component ⟨"Chip", "ui", none, false⟩ := rfl
  have found : labelledChip.firstText = some "New" := rfl
  obtain ⟨first, _, shown⟩ := component_shows_first_text labelledChip
  refine ⟨component, (first "New").1 found, ?_⟩
  rw [shown toolbarConfig none _ component, found]
  rfl

end DesignMarkup
