import DesignMarkup.Proofs.Element.Visit
import DesignMarkup.Proofs.Lists
import Mathlib.Logic.ExistsUnique
/-!
Where an id stands in a tree. A place is a path of branches, through attributes as through children, and
an id is counted once for each place of an element with this id.
-/
namespace DesignMarkup.Element

def branchAt? : Element → List Nat → Option Element
  | e, [] => some e
  | e, i :: path => e.branches[i]?.bind (branchAt? · path)

def Carries (tree : Element) (id : String) (path : List Nat) : Prop :=
  ∃ e, tree.branchAt? path = some e ∧ e.id = some id

def CarriedOnce (tree : Element) (id : String) : Prop := ∃! path, tree.Carries id path

section
variable {e : Element} {id : String}

theorem carries_nil : e.Carries id [] ↔ e.id = some id := by
  constructor
  · intro ⟨d, here, hasId⟩
    obtain rfl := Option.some.inj here
    exact hasId
  · intro hasId
    exact ⟨e, rfl, hasId⟩

theorem carries_cons {i : Nat} {path : List Nat} :
    e.Carries id (i :: path) ↔ ∃ c, e.branches[i]? = some c ∧ c.Carries id path := by
  unfold Carries
  simp only [branchAt?, Option.bind_eq_some_iff]
  constructor
  · intro ⟨d, ⟨c, branch, below⟩, hasId⟩
    exact ⟨c, branch, d, below, hasId⟩
  · intro ⟨c, branch, d, below, hasId⟩
    exact ⟨d, ⟨c, branch, below⟩, hasId⟩

theorem ids_eq (e : Element) : e.ids = e.id.toList ++ e.branches.flatMap ids := by
  have below : e.descendants.filterMap (·.id) = e.branches.flatMap ids := by
    rw [descendants_eq, List.filterMap_flatMap]
    rfl
  rw [ids, visit_eq, List.filterMap_cons, below]
  cases e.id <;> rfl

theorem mem_ids_iff : id ∈ e.ids ↔ ∃ path, e.Carries id path := by
  induction e using induction_branches with
  | step e ih =>
    rw [ids_eq, List.mem_append, Option.mem_toList, List.mem_flatMap]
    constructor
    · intro carried
      rcases carried with here | ⟨c, branch, below⟩
      · exact ⟨[], carries_nil.2 here⟩
      · obtain ⟨path, inside⟩ := (ih c branch).1 below
        obtain ⟨i, at_⟩ := List.mem_iff_getElem?.1 branch
        exact ⟨i :: path, carries_cons.2 ⟨c, at_, inside⟩⟩
    · intro ⟨path, carried⟩
      cases path with
      | nil => exact .inl (carries_nil.1 carried)
      | cons i path =>
        obtain ⟨c, at_, inside⟩ := carries_cons.1 carried
        have branch := List.mem_of_getElem? at_
        exact .inr ⟨c, branch, (ih c branch).2 ⟨path, inside⟩⟩

theorem carriedOnce_here (here : e.id = some id) :
    e.CarriedOnce id ↔ id ∉ e.branches.flatMap ids := by
  constructor
  · intro once below
    obtain ⟨c, branch, member⟩ := List.mem_flatMap.1 below
    obtain ⟨i, at_⟩ := List.mem_iff_getElem?.1 branch
    obtain ⟨path, inside⟩ := mem_ids_iff.1 member
    have deeper : e.Carries id (i :: path) := carries_cons.2 ⟨c, at_, inside⟩
    cases once.unique deeper (carries_nil.2 here)
  · intro absent
    refine ⟨[], carries_nil.2 here, ?_⟩
    intro path carried
    cases path with
    | nil => rfl
    | cons i path =>
      obtain ⟨c, at_, inside⟩ := carries_cons.1 carried
      have member : id ∈ c.ids := mem_ids_iff.2 ⟨path, inside⟩
      exact absurd (List.mem_flatMap.2 ⟨c, List.mem_of_getElem? at_, member⟩) absent

theorem carriedOnce_below (other : e.id ≠ some id) :
    e.CarriedOnce id ↔ ∃ (i : Nat) (c : Element), e.branches[i]? = some c ∧ c.CarriedOnce id ∧
      ∀ (j : Nat) (d : Element), e.branches[j]? = some d → id ∈ d.ids → j = i := by
  constructor
  · intro ⟨path, carried, unique⟩
    cases path with
    | nil => exact absurd (carries_nil.1 carried) other
    | cons i path =>
      obtain ⟨c, at_, inside⟩ := carries_cons.1 carried
      refine ⟨i, c, at_, ⟨path, inside, ?_⟩, ?_⟩
      · intro path' inside'
        exact (List.cons.inj (unique (i :: path') (carries_cons.2 ⟨c, at_, inside'⟩))).2
      · intro j d branch member
        obtain ⟨path', inside'⟩ := mem_ids_iff.1 member
        exact (List.cons.inj (unique (j :: path') (carries_cons.2 ⟨d, branch, inside'⟩))).1
  · intro ⟨i, c, at_, ⟨path, inside, unique⟩, only⟩
    refine ⟨i :: path, carries_cons.2 ⟨c, at_, inside⟩, ?_⟩
    intro place carried
    cases place with
    | nil => exact absurd (carries_nil.1 carried) other
    | cons j path' =>
      obtain ⟨d, branch, inside'⟩ := carries_cons.1 carried
      obtain rfl := only j d branch (mem_ids_iff.2 ⟨path', inside'⟩)
      obtain rfl := Option.some.inj (branch.symm.trans at_)
      rw [unique path' inside']

/-- An id is counted once exactly if one place carries it and no other does. -/
theorem count_ids_eq_one : e.ids.count id = 1 ↔ e.CarriedOnce id := by
  induction e using induction_branches with
  | step e ih =>
    rw [ids_eq, List.count_append]
    by_cases here : e.id = some id
    · have own : e.id.toList.count id = 1 := by rw [here]; simp
      rw [own, Nat.add_eq_left, List.count_eq_zero, carriedOnce_here here]
    · have own : e.id.toList.count id = 0 := by
        rw [List.count_eq_zero, Option.mem_toList]
        exact here
      rw [own, Nat.zero_add, count_flatMap_eq_one, carriedOnce_below here]
      constructor
      · intro ⟨i, c, at_, one, only⟩
        exact ⟨i, c, at_, (ih c (List.mem_of_getElem? at_)).1 one, only⟩
      · intro ⟨i, c, at_, once, only⟩
        exact ⟨i, c, at_, (ih c (List.mem_of_getElem? at_)).2 once, only⟩

end

instance (tree : Element) (id : String) : Decidable (tree.CarriedOnce id) :=
  decidable_of_iff (tree.ids.count id = 1) count_ids_eq_one

end DesignMarkup.Element
