import DesignMarkup.Proofs.Element.Repeats
/-!
The order of `Element.visit`: an element stands right before all that is below it. In a frozen
element no two elements share an id.
-/
namespace DesignMarkup.Element

/-- Behind each element of the list comes all that is below it. -/
def Nested (es : List Element) : Prop := ∀ k e, es[k]? = some e → e.visit <+: es.drop k

theorem nested_nil : Nested [] := by
  intro k e found
  simp at found

theorem Nested.append {xs ys : List Element} (hx : Nested xs) (hy : Nested ys) :
    Nested (xs ++ ys) := by
  intro k e found
  by_cases early : k < xs.length
  · rw [List.getElem?_append_left early] at found
    rw [List.drop_append_of_le_length (by omega)]
    exact (hx k e found).trans (List.prefix_append ..)
  · rw [List.getElem?_append_right (by omega)] at found
    rw [List.drop_append, List.drop_eq_nil_of_le (by omega), List.nil_append]
    exact hy (k - xs.length) e found

theorem nested_cons {e : Element} (below : Nested e.descendants) : Nested e.visit := by
  rw [visit_eq]
  intro k d found
  cases k with
  | zero =>
    obtain rfl : e = d := by simpa using found
    simp only [visit_eq, List.drop_zero, List.prefix_rfl]
  | succ k => exact below k d found

mutual

theorem nested_visit : ∀ e : Element, Nested e.visit
  | ⟨_, _, _, _, attributes, content, _, _, _, _, _⟩ =>
    nested_cons ((nested_visitAttributes attributes).append (nested_visitContent content))

theorem nested_visitAttributes : ∀ a : Attributes, Nested (visitAttributes a)
  | ⟨_, _, _, extra⟩ => by
    rw [visitAttributes]
    exact nested_visitExtra extra

theorem nested_visitExtra : ∀ extra, Nested (visitExtra extra)
  | [] => by
    rw [visitExtra]
    exact nested_nil
  | (_, value) :: rest => by
    rw [visitExtra]
    exact (nested_visitAttribute value).append (nested_visitExtra rest)

theorem nested_visitAttribute : ∀ a, Nested (visitAttribute a)
  | .element e => by
    rw [visitAttribute]
    exact nested_visit e
  | .data _ => by
    rw [visitAttribute]
    exact nested_nil

theorem nested_visitContent : ∀ c, Nested (visitContent c)
  | .children items => by
    rw [visitContent]
    exact nested_visitAll items
  | .text _ => by
    rw [visitContent]
    exact nested_nil
  | .asset _ => by
    rw [visitContent]
    exact nested_nil

theorem nested_visitAll : ∀ items, Nested (visitAll items)
  | [] => by
    rw [visitAll]
    exact nested_nil
  | e :: rest => by
    rw [visitAll]
    exact (nested_visit e).append (nested_visitAll rest)

end

theorem visit_getElem?_add {root e d : Element} {n m : Nat} (outer : root.visit[n]? = some e)
    (inner : e.visit[m]? = some d) : root.visit[n + m]? = some d := by
  obtain ⟨rest, split⟩ := nested_visit root n e outer
  rw [← List.getElem?_drop, ← split, List.getElem?_append_left (List.getElem?_eq_some_iff.1 inner).1]
  exact inner

theorem visit_within {root e : Element} (member : e ∈ root.visit) : e.visit <:+: root.visit := by
  obtain ⟨n, found⟩ := List.mem_iff_getElem?.1 member
  exact (nested_visit root n e found).isInfix.trans (List.drop_suffix n _).isInfix

/-- The elements right below: those of the attributes, then the children. -/
def branches (e : Element) : List Element := e.attributes.elements.map (·.2) ++ e.children

theorem mem_elements {a : Attributes} {key : String} {c : Element} :
    (key, c) ∈ a.elements ↔ (key, .element c) ∈ a.extra := by
  rw [Attributes.elements, List.mem_filterMap]
  constructor
  · rintro ⟨⟨k, value⟩, member, same⟩
    cases value with
    | element d =>
      obtain ⟨rfl, rfl⟩ : k = key ∧ d = c := by simpa using same
      exact member
    | data => exact nomatch same
  · exact fun member => ⟨(key, .element c), member, rfl⟩

theorem child_mem_branches {e c : Element} (member : c ∈ e.children) : c ∈ e.branches :=
  List.mem_append_right _ member

theorem attribute_mem_branches {e c : Element} {key : String}
    (member : (key, .element c) ∈ e.attributes.extra) : c ∈ e.branches :=
  List.mem_append_left _ (List.mem_map_of_mem (mem_elements.2 member))

theorem visitAll_eq (items : List Element) : visitAll items = items.flatMap visit := by
  induction items with
  | nil => rw [visitAll, List.flatMap_nil]
  | cons e rest ih => rw [visitAll, List.flatMap_cons, ih]

theorem visitContent_eq (c : Content) : visitContent c = c.items.flatMap visit := by
  cases c with
  | children items => rw [visitContent, visitAll_eq, Content.items]
  | text => rfl
  | asset => rfl

theorem visitAttributes_eq (a : Attributes) :
    visitAttributes a = (a.elements.map (·.2)).flatMap visit := by
  obtain ⟨_, _, _, extra⟩ := a
  rw [visitAttributes, Attributes.elements]
  induction extra with
  | nil => rw [visitExtra]; rfl
  | cons entry rest ih =>
    obtain ⟨key, value⟩ := entry
    cases value with
    | element e => simp [visitExtra, visitAttribute, ih]
    | data => simp [visitExtra, visitAttribute, ih]

theorem descendants_eq (e : Element) : e.descendants = e.branches.flatMap visit := by
  rw [descendants, visitAttributes_eq, visitContent_eq, branches, List.flatMap_append]
  rfl

theorem mem_descendants {e d : Element} : d ∈ e.descendants ↔ ∃ c ∈ e.branches, d ∈ c.visit := by
  rw [descendants_eq, List.mem_flatMap]

theorem mem_visit_self (e : Element) : e ∈ e.visit := by simp [visit_eq]

theorem mem_visit_of_below {root e : Element} (below : e ∈ root.descendants) : e ∈ root.visit := by
  rw [visit_eq]
  exact List.mem_cons_of_mem _ below

theorem count_pos (e : Element) : 0 < e.count := by simp [count, visit_eq]

theorem count_le {root e : Element} (member : e ∈ root.visit) : e.count ≤ root.count :=
  (visit_within member).length_le

theorem count_lt {root e : Element} (below : e ∈ root.descendants) : e.count < root.count := by
  obtain ⟨k, found⟩ := List.mem_iff_getElem?.1 below
  have within := (nested_visit root (k + 1) e (by rw [visit_eq]; exact found)).length_le
  rw [visit_eq root, List.drop_succ_cons, List.length_drop] at within
  have visited : root.count = root.descendants.length + 1 := by rw [count, visit_eq]; rfl
  rw [visited, count]
  omega

theorem visit_branch {e c : Element} (branch : c ∈ e.branches) : c.visit ⊆ e.visit :=
  (visit_within (mem_visit_of_below (mem_descendants.2 ⟨c, branch, c.mem_visit_self⟩))).subset

theorem mem_branches {e c : Element} :
    c ∈ e.branches ↔ c ∈ e.children ∨ ∃ key, (key, .element c) ∈ e.attributes.extra := by
  rw [branches, List.mem_append, or_comm, List.mem_map]
  refine or_congr_right ⟨?_, ?_⟩
  · rintro ⟨⟨key, d⟩, member, rfl⟩
    exact ⟨key, mem_elements.1 member⟩
  · rintro ⟨key, member⟩
    exact ⟨(key, c), mem_elements.2 member, rfl⟩

/-- What holds of an element if it holds of the elements right below holds of every element. -/
theorem induction_branches {motive : Element → Prop}
    (step : ∀ e, (∀ c ∈ e.branches, motive c) → motive e) (e : Element) : motive e := by
  refine step e fun c branch => ?_
  have smaller : c.count < e.count := count_lt (mem_descendants.2 ⟨c, branch, c.mem_visit_self⟩)
  exact induction_branches step c
termination_by e.count

/-- The element itself, and what comes below it through children and the elements of attributes. -/
inductive Reaches : Element → Element → Prop where
  | self (e : Element) : Reaches e e
  | ofChild {e c d : Element} (member : c ∈ e.children) (below : Reaches c d) : Reaches e d
  | ofAttribute {e c d : Element} {key : String} (member : (key, .element c) ∈ e.attributes.extra)
      (below : Reaches c d) : Reaches e d

theorem mem_visit_iff {e d : Element} : d ∈ e.visit ↔ e.Reaches d := by
  constructor
  · intro visited
    induction e using induction_branches with
    | step e ih =>
      rw [visit_eq] at visited
      rcases List.mem_cons.1 visited with rfl | below
      · exact .self _
      · obtain ⟨c, branch, inside⟩ := mem_descendants.1 below
        rcases mem_branches.1 branch with child | ⟨key, entry⟩
        · exact .ofChild child (ih c branch inside)
        · exact .ofAttribute entry (ih c branch inside)
  · intro reached
    induction reached with
    | self e => exact e.mem_visit_self
    | ofChild member _ ih => exact visit_branch (child_mem_branches member) ih
    | ofAttribute member _ ih => exact visit_branch (attribute_mem_branches member) ih

theorem frozen_ownViolations (tree : Frozen) {e : Element} (reached : tree.element.Reaches e) :
    e.ownViolations = [] :=
  (violations_eq_nil.1 tree.sound).1 e (mem_visit_iff.2 reached)

theorem frozen_ids_nodup (tree : Frozen) : tree.element.ids.Nodup :=
  (violations_eq_nil.1 tree.sound).2

theorem count_ids (e : Element) (id : String) :
    e.ids.count id = (e.visit.filter (·.id = some id)).length := by
  rw [ids, List.count_filterMap, List.countP_eq_length_filter]
  congr
  funext d
  exact Bool.beq_eq_decide_eq d.id (some id)

theorem frozen_id_once (tree : Frozen) {id : String} (member : id ∈ tree.element.ids) :
    (tree.element.visit.filter (·.id = some id)).length = 1 := by
  rw [← count_ids, (frozen_ids_nodup tree).count, if_pos member]

end DesignMarkup.Element
