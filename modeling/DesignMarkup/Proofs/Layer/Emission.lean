import DesignMarkup.Emission
/-!
What the emission of a layer gives: one element, whose children are the layers that are kept below a
container. It makes no difference whether they are emitted side by side.
-/
namespace DesignMarkup

theorem forkJoin_eq {α : Type} (splits : Nat) (tasks : List (Unit → α)) :
    forkJoin splits tasks = tasks.map (· ()) := by
  induction splits generalizing tasks with
  | zero => rfl
  | succ n ih => rw [forkJoin, ih, ih, ← List.map_append, List.take_append_drop]

theorem Config.runAll_eq {α : Type} (c : Config) (tasks : List (Unit → α)) :
    c.runAll tasks = tasks.map (· ()) := by
  rw [Config.runAll]
  split
  · exact forkJoin_eq _ tasks
  · rfl

def Json.isString : Json → Bool
  | .string _ => true
  | _ => false

theorem Attributes.insert_cases (a : Attributes) (key : String) (v : Json) :
    (∃ s, v = .string s ∧
      (key = "className" ∧ a.insert key (.data v) = { a with className := some s } ∨
        key = "src" ∧ a.insert key (.data v) = { a with src := some s } ∨
        key = "alt" ∧ a.insert key (.data v) = { a with alt := some s })) ∨
    (Element.isCommon key && v.isString) = false ∧
      a.insert key (.data v) = { a with extra := Dict.insert a.extra key (.data v) } := by
  by_cases text : (Element.isCommon key && v.isString) = true
  · left
    obtain ⟨common, string⟩ := Bool.and_eq_true_iff.1 text
    cases v with
    | string s =>
      simp only [Element.isCommon, List.contains_eq_mem, decide_eq_true_eq, List.mem_cons,
        List.not_mem_nil, or_false] at common
      refine ⟨s, rfl, ?_⟩
      rcases common with rfl | rfl | rfl
      · exact .inl ⟨rfl, rfl⟩
      · exact .inr (.inl ⟨rfl, rfl⟩)
      · exact .inr (.inr ⟨rfl, rfl⟩)
    | _ => exact nomatch string
  · right
    refine ⟨Bool.eq_false_iff.2 text, ?_⟩
    unfold insert
    split
    -- A text of one of the three names.
    iterate 3
      rename_i same
      rw [Attribute.data.inj same] at text
      exact absurd rfl text
    rfl

theorem Attributes.insert_extra (a : Attributes) (key : String) (v : Json) :
    (a.insert key (.data v)).extra =
      if Element.isCommon key && v.isString then a.extra else Dict.insert a.extra key (.data v) := by
  rcases a.insert_cases key v with ⟨s, rfl, ⟨rfl, same⟩ | ⟨rfl, same⟩ | ⟨rfl, same⟩⟩ | ⟨rest, same⟩
  · rfl
  · rfl
  · rfl
  · rw [same, rest]
    rfl

namespace Layer

/-- What holds of a layer if it holds of the layers right below holds of every layer. -/
theorem induction_below {motive : Layer → Prop}
    (step : ∀ l, (∀ child ∈ l.children, motive child) → motive l) (l : Layer) : motive l := by
  refine step l fun child member => ?_
  have smaller : sizeOf child < sizeOf l := by
    have inList := List.sizeOf_lt_of_mem member
    cases l
    simp only [mk.sizeOf_spec] at inList ⊢
    omega
  exact induction_below step child
termination_by sizeOf l

theorem emitTasks_results (c : Config) (parent : Option ParentFrame) (layers : List Layer) :
    (emitTasks c parent layers).map (· ()) = (layers.filter c.keeps).map (emit c parent) := by
  induction layers with
  | nil => rw [emitTasks]; rfl
  | cons l rest ih =>
    rw [emitTasks]
    by_cases kept : c.keeps l <;> simp [kept, ih]

theorem emit_eq (c : Config) (parent : Option ParentFrame) (l : Layer) :
    l.emit c parent =
      match l.form c with
      | .placeholder detail => l.emitPlaceholder detail
      | .text => l.emitText parent
      | .component m => l.emitComponent parent m
      | .asset url => l.emitAsset parent url
      | .container =>
        l.emitContainer parent
          ((l.children.filter c.keeps).map (emit c (ParentFrame.of? l))) := by
  cases l
  rw [emit]
  split <;> simp only [*, Config.runAll_eq, emitTasks_results]

/-- Emission looks at the mappings of a configuration and at what it keeps, and at nothing else. -/
theorem emit_congr {c d : Config} (components : c.components = d.components)
    (dropInvisible : c.dropInvisible = d.dropInvisible) (parent : Option ParentFrame) (l : Layer) :
    l.emit c parent = l.emit d parent := by
  have form : ∀ l : Layer, l.form c = l.form d := fun l => by
    unfold Layer.form Config.mapping?
    rw [components]
  have keeps : c.keeps = d.keeps := by
    unfold Config.keeps
    rw [dropInvisible]
  induction l using induction_below generalizing parent with
  | step l ih =>
    have below : (l.children.filter d.keeps).map (emit c (ParentFrame.of? l)) =
        (l.children.filter d.keeps).map (emit d (ParentFrame.of? l)) :=
      List.map_congr_left fun child kept => ih child (List.mem_filter.1 kept).1 _
    rw [emit_eq, emit_eq, form, keeps, below]

/-- Emission side by side gives what emission in order gives. -/
theorem emit_parallel (c : Config) (parallel : Bool) (parent : Option ParentFrame) (l : Layer) :
    l.emit { c with parallel } parent = l.emit c parent := by
  refine emit_congr ?_ ?_ parent l
  · rfl
  · rfl

theorem mem_insert_extra {a : Attributes} {key other : String} {v : Json} {value : Attribute}
    (h : (other, value) ∈ (a.insert key (.data v)).extra) :
    (other, value) ∈ a.extra ∨ other = key ∧ value = .data v ∧
      ¬ (Element.isCommon key = true ∧ ∃ s, v = .string s) := by
  rw [a.insert_extra] at h
  split at h
  · exact .inl h
  · rename_i rest
    refine (Dict.mem_insert h).symm.imp_right fun entry => ?_
    obtain ⟨rfl, rfl⟩ := Prod.mk.inj entry
    refine ⟨rfl, rfl, ?_⟩
    rintro ⟨common, s, rfl⟩
    exact rest (Bool.and_eq_true_iff.2 ⟨common, rfl⟩)

def Gives (property : String × ComponentProperty) (key : String) (value : Attribute) : Prop :=
  attributeName? property.1 = some key ∧ value = .data property.2.value ∧
    ¬ (Element.isCommon key = true ∧ ∃ s, property.2.value = .string s)

theorem withProperties_attributes (l : Layer) (e : Element) :
    ∃ attributes, l.withProperties e = { e with attributes } := by
  refine List.foldlRecOn (motive := fun x : Element => ∃ attributes, x = { e with attributes })
    l.componentProperties _ ⟨e.attributes, by cases e; rfl⟩ ?_
  rintro _ ⟨attributes, rfl⟩ property _
  dsimp only
  split
  · exact ⟨_, rfl⟩
  · exact ⟨_, rfl⟩

theorem mem_withProperties {l : Layer} {e : Element} {key : String} {value : Attribute}
    (h : (key, value) ∈ (l.withProperties e).attributes.extra) :
    (key, value) ∈ e.attributes.extra ∨
      ∃ property ∈ l.componentProperties, Gives property key value := by
  let Known (x : Element) : Prop := (key, value) ∈ x.attributes.extra →
    (key, value) ∈ e.attributes.extra ∨ ∃ property ∈ l.componentProperties, Gives property key value
  refine List.foldlRecOn (motive := Known) l.componentProperties _ Or.inl ?_ h
  intro x known property member
  dsimp only
  split
  · rename_i name named
    intro h
    rcases mem_insert_extra h with h | ⟨rfl, given⟩
    · exact known h
    · exact .inr ⟨property, member, named, given⟩
  · exact known

end Layer
end DesignMarkup
