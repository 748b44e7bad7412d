import Mathlib.Algebra.Order.BigOperators.Group.List
import Mathlib.Algebra.Order.Group.Nat
import Mathlib.Data.List.Forall2
import Mathlib.Data.List.Induction
import Mathlib.Data.List.Pairwise
/-!
Lists: their filtered parts, joined images, first occurrences and counts.
-/
namespace DesignMarkup
variable {α β : Type}

theorem getLast?_filter_eq_some {items : List α} {kind : α → Bool} {a : α} :
    (items.filter kind).getLast? = some a ↔
      ∃ before after, items = before ++ a :: after ∧ kind a = true ∧ ∀ b ∈ after, kind b = false := by
  rw [← List.head?_reverse, ← List.filter_reverse, List.head?_filter,
    List.find?_eq_some_iff_append]
  constructor
  · rintro ⟨own, above, below, split, other⟩
    refine ⟨below.reverse, above.reverse, ?_, own, ?_⟩
    · rw [← List.reverse_reverse items, split]
      simp
    · intro b member
      simpa using other b (List.mem_reverse.1 member)
  · rintro ⟨below, above, split, own, other⟩
    refine ⟨own, above.reverse, below.reverse, ?_, ?_⟩
    · simp [split]
    · intro b member
      simpa using other b (List.mem_reverse.1 member)

theorem getElem?_of_filter {p : α → Bool} {items : List α} {i : Nat} {a : α}
    (found : (items.filter p)[i]? = some a) :
    ∃ j, items[j]? = some a ∧ p a = true ∧ (items.take j).countP p = i := by
  induction items generalizing i with
  | nil => simp at found
  | cons x rest ih =>
    by_cases kept : p x
    · rw [List.filter_cons_of_pos kept] at found
      cases i with
      | zero =>
        obtain rfl : x = a := by simpa using found
        exact ⟨0, rfl, kept, rfl⟩
      | succ i =>
        obtain ⟨j, here, own, before⟩ := ih (by simpa using found)
        exact ⟨j + 1, here, own, by simp [kept, before]⟩
    · rw [List.filter_cons_of_neg kept] at found
      obtain ⟨j, here, own, before⟩ := ih found
      exact ⟨j + 1, here, own, by simp [kept, before]⟩

theorem getElem?_filter_countP {p : α → Bool} {items : List α} {i : Nat} {a : α}
    (found : items[i]? = some a) (kept : p a) :
    (items.filter p)[(items.take i).countP p]? = some a := by
  obtain ⟨inside, rfl⟩ := List.getElem?_eq_some_iff.1 found
  have split : items.filter p =
      (items.take i).filter p ++ items[i] :: (items.drop (i + 1)).filter p := by
    rw [← List.filter_cons_of_pos kept, ← List.filter_append, ← List.drop_eq_getElem_cons inside,
      List.take_append_drop]
  rw [split, List.countP_eq_length_filter, List.getElem?_append_right (Nat.le_refl _), Nat.sub_self]
  rfl

theorem flatMap_filter (keeps : α → Bool) (f : α → List β) (items : List α) :
    (items.filter keeps).flatMap f = items.flatMap fun a => if keeps a then f a else [] := by
  induction items with
  | nil => rfl
  | cons a rest ih => cases kept : keeps a <;> simp [kept, ih]

theorem map_modify {f : α → β} {change : α → α} {change' : β → β} {items : List α} {i : Nat}
    {a : α} (here : items[i]? = some a) (changes : f (change a) = change' (f a)) :
    (items.modify i change).map f = (items.map f).modify i change' := by
  refine List.ext_getElem? fun j => ?_
  rw [List.getElem?_map, List.getElem?_modify, List.getElem?_modify, List.getElem?_map]
  by_cases same : i = j
  · rw [← same, here]
    simp [changes]
  · simp [same]

theorem pairwise_iff_of_ascending {number : α → Nat} {xs : List α} {R : α → α → Prop}
    (ascends : xs.Pairwise fun a b => number a < number b) :
    xs.Pairwise R ↔ ∀ a ∈ xs, ∀ b ∈ xs, number a < number b → R a b := by
  constructor
  · intro related
    apply List.Pairwise.forall_of_forall_of_flip
    · intro a _ same
      omega
    · apply related.imp
      intro a b own _
      exact own
    · apply ascends.imp
      intro a b before after
      omega
  · intro each
    exact ascends.imp_of_mem fun inA inB before => each _ inA _ inB before

theorem mem_of_lookup {known : List (String × α)} {name : String} {a : α}
    (found : known.lookup name = some a) : a ∈ known.map Prod.snd := by
  obtain ⟨before, after, rfl, -⟩ := List.lookup_eq_some_iff.1 found
  simp

theorem intercalate_cons (separator first : List Char) (rest : List (List Char)) :
    separator.intercalate (first :: rest) = first ++ rest.flatMap (separator ++ ·) := by
  induction rest generalizing first with
  | nil => simp [List.intercalate]
  | cons second rest ih =>
    rw [List.intercalate_cons_cons, ih, List.flatMap_cons]
    simp

section
variable [DecidableEq α]

theorem eraseDups_snoc (xs : List α) (x : α) :
    (xs ++ [x]).eraseDups = if x ∈ xs then xs.eraseDups else xs.eraseDups ++ [x] := by
  rw [List.eraseDups_append]
  by_cases again : x ∈ xs <;> simp [List.removeAll, List.eraseDups_cons, again]

theorem eraseDups_nodup (xs : List α) : xs.eraseDups.Nodup := by
  induction xs using List.reverseRecOn with
  | nil => simp
  | append_singleton xs x ih =>
    rw [eraseDups_snoc]
    split
    · exact ih
    · rename_i new
      rw [List.nodup_append]
      refine ⟨ih, by simp, ?_⟩
      rintro y old _ last rfl
      rw [List.mem_singleton.1 last, List.mem_eraseDups] at old
      exact new old

theorem eraseDups_sublist (xs : List α) : xs.eraseDups.Sublist xs := by
  induction xs using List.reverseRecOn with
  | nil => simp
  | append_singleton xs x ih =>
    rw [eraseDups_snoc]
    split
    · exact ih.trans (List.sublist_append_left ..)
    · exact ih.append_right [x]

end

theorem filter_key [DecidableEq β] {f : α → β} {xs : List α} (distinct : (xs.map f).Nodup) (key : β) :
    xs.filter (f · = key) = (xs.find? (f · = key)).toList := by
  induction xs with
  | nil => rfl
  | cons x rest ih =>
    rw [List.map_cons, List.nodup_cons] at distinct
    by_cases here : f x = key
    · have later : rest.filter (f · = key) = [] := by
        refine List.filter_eq_nil_iff.2 fun y member => ?_
        have apart : f y ≠ key := fun same => distinct.1 (here ▸ same ▸ List.mem_map_of_mem member)
        simpa using apart
      simp [here, later]
    · simp [here, ih distinct.2]

section
variable [BEq β] [LawfulBEq β]

theorem count_append_eq_one {xs ys : List β} {b : β} :
    (xs ++ ys).count b = 1 ↔ xs.count b = 1 ∧ b ∉ ys ∨ b ∉ xs ∧ ys.count b = 1 := by
  rw [List.count_append, ← List.count_eq_zero, ← List.count_eq_zero]
  omega

/-- Something stands once in joined lists exactly if it stands once in one of them and in no other. -/
theorem count_flatMap_eq_one {f : α → List β} {items : List α}
    {b : β} : (items.flatMap f).count b = 1 ↔
      ∃ (i : Nat) (a : α), items[i]? = some a ∧ (f a).count b = 1 ∧
        ∀ (j : Nat) (d : α), items[j]? = some d → b ∈ f d → j = i := by
  induction items with
  | nil => simp
  | cons first rest ih =>
    rw [List.flatMap_cons, count_append_eq_one]
    constructor
    · rintro (⟨once, nowhere⟩ | ⟨absent, once⟩)
      · refine ⟨0, first, rfl, once, ?_⟩
        intro j d at_ member
        cases j with
        | zero => rfl
        | succ j =>
          have later : b ∈ rest.flatMap f :=
            List.mem_flatMap.2 ⟨d, List.mem_of_getElem? at_, member⟩
          exact absurd later nowhere
      · obtain ⟨i, a, at_, one, only⟩ := ih.1 once
        refine ⟨i + 1, a, at_, one, ?_⟩
        intro j d other member
        cases j with
        | zero =>
          obtain rfl := Option.some.inj other
          exact absurd member absent
        | succ j => rw [only j d other member]
    · intro ⟨i, a, at_, one, only⟩
      cases i with
      | zero =>
        left
        obtain rfl := Option.some.inj at_
        refine ⟨one, fun later => ?_⟩
        obtain ⟨d, inside, member⟩ := List.mem_flatMap.1 later
        obtain ⟨j, other⟩ := List.mem_iff_getElem?.1 inside
        cases only (j + 1) d other member
      | succ i =>
        right
        constructor
        · intro here
          cases only 0 first rfl here
        · refine ih.2 ⟨i, a, at_, one, ?_⟩
          intro j d other member
          exact Nat.succ.inj (only (j + 1) d other member)

end

theorem mapM_isSome (f : α → Option β) (xs : List α) :
    (xs.mapM f).isSome = true ↔ ∀ x ∈ xs, (f x).isSome = true := by
  induction xs with
  | nil => simp
  | cons x rest ih =>
    rw [List.mapM_cons, List.forall_mem_cons, ← ih]
    cases f x <;> cases rest.mapM f <;> simp

theorem option_mapM_isSome (f : α → Option β) (x? : Option α) :
    (x?.mapM f).isSome = true ↔ ∀ x ∈ x?.toList, (f x).isSome = true := by
  cases x? with
  | none => simp
  | some x => simp [Option.mapM_some]

end DesignMarkup
