import DesignMarkup.Text.Basic
/-!
Replacing in text that is put together: a text that holds no match stays as it is, a match becomes the
new text, and a character that is in no match parts what is before it from what is after it.
-/
namespace DesignMarkup.Text
variable {pattern fresh : List Char}

theorem replaceFrom_absent {text : List Char} (absent : ¬ pattern <:+: text) :
    replaceFrom pattern fresh 0 text = text := by
  induction text with
  | nil => rfl
  | cons c rest ih =>
    have apart : pattern.isPrefixOf (c :: rest) = false := by
      rw [← Bool.not_eq_true, List.isPrefixOf_iff_prefix]
      exact fun front => absent front.isInfix
    rw [replaceFrom, apart, if_neg Bool.false_ne_true,
      ih fun inside => absent (inside.trans (List.suffix_cons c rest).isInfix)]

theorem replaceFrom_passed (text rest : List Char) :
    replaceFrom pattern fresh text.length (text ++ rest) = replaceFrom pattern fresh 0 rest := by
  induction text with
  | nil => rfl
  | cons c text ih => exact ih

theorem replaceFrom_match (nonempty : pattern ≠ []) (rest : List Char) :
    replaceFrom pattern fresh 0 (pattern ++ rest) = fresh ++ replaceFrom pattern fresh 0 rest := by
  obtain ⟨c, others, rfl⟩ := List.exists_cons_of_ne_nil nonempty
  have here : (c :: others).isPrefixOf (c :: (others ++ rest)) = true :=
    List.isPrefixOf_iff_prefix.2 (List.prefix_append (c :: others) rest)
  rw [List.cons_append, replaceFrom, if_pos here, List.length_cons, Nat.add_sub_cancel,
    replaceFrom_passed]

theorem replaceFrom_self (nonempty : pattern ≠ []) : replaceFrom pattern fresh 0 pattern = fresh := by
  have whole := @replaceFrom_match pattern fresh nonempty []
  rwa [List.append_nil, replaceFrom, List.append_nil] at whole

theorem replaceFrom_lead {lead : List Char} (rest : List Char)
    (apart : ∀ text, text ≠ [] → text <:+ lead → ¬ pattern <+: text ++ rest) :
    replaceFrom pattern fresh 0 (lead ++ rest) = lead ++ replaceFrom pattern fresh 0 rest := by
  induction lead with
  | nil => rfl
  | cons c lead ih =>
    have here : pattern.isPrefixOf (c :: (lead ++ rest)) = false := by
      rw [← Bool.not_eq_true, List.isPrefixOf_iff_prefix]
      exact apart (c :: lead) (List.cons_ne_nil c lead) (List.suffix_refl _)
    rw [List.cons_append, replaceFrom, here, if_neg Bool.false_ne_true, List.cons_append,
      ih fun text nonempty back => apart text nonempty (back.trans (List.suffix_cons c lead))]

theorem replaceFrom_between {c : Char} {rest lead tail : List Char} (notBefore : c ∉ lead)
    (notAfter : c ∉ tail) :
    replaceFrom (c :: rest) fresh 0 (lead ++ (c :: rest) ++ tail) = lead ++ fresh ++ tail := by
  have absent : ¬ c :: rest <:+: tail := fun inside => notAfter (inside.subset List.mem_cons_self)
  have apart : ∀ text, text ≠ [] → text <:+ lead → ¬ c :: rest <+: text ++ ((c :: rest) ++ tail) := by
    intro text nonempty back front
    obtain ⟨d, others, rfl⟩ := List.exists_cons_of_ne_nil nonempty
    rw [List.cons_append, List.cons_prefix_cons] at front
    obtain ⟨rfl, _⟩ := front
    exact notBefore (back.subset List.mem_cons_self)
  rw [List.append_assoc, replaceFrom_lead _ apart, replaceFrom_match (List.cons_ne_nil c rest),
    replaceFrom_absent absent, List.append_assoc]

section
variable {mark : Char} (absent : mark ∉ pattern)
include absent

theorem prefix_append_mark {xs ys : List Char} :
    pattern <+: xs ++ mark :: ys ↔ pattern <+: xs := by
  constructor
  · intro front
    by_cases short : pattern.length ≤ xs.length
    · exact List.prefix_of_prefix_length_le front (List.prefix_append ..) short
    · obtain ⟨more, rfl⟩ := List.prefix_of_prefix_length_le (List.prefix_append ..) front (by omega)
      cases more with
      | nil => simp at short
      | cons c more =>
        obtain ⟨rfl, -⟩ := List.cons_prefix_cons.1 ((List.prefix_append_right_inj xs).1 front)
        simp at absent
  · exact fun front => front.trans (List.prefix_append ..)

theorem replaceFrom_mark (nonempty : pattern ≠ []) (xs ys : List Char) (skip : Nat)
    (le : skip ≤ xs.length) : replaceFrom pattern fresh skip (xs ++ mark :: ys) =
      replaceFrom pattern fresh skip xs ++ mark :: replaceFrom pattern fresh 0 ys := by
  induction xs generalizing skip with
  | nil =>
    obtain rfl : skip = 0 := by simpa using le
    have here : pattern.isPrefixOf (mark :: ys) = false := by
      rw [← Bool.not_eq_true, List.isPrefixOf_iff_prefix]
      intro front
      have empty : pattern <+: [] := (prefix_append_mark absent).1 front
      exact nonempty (List.prefix_nil.1 empty)
    change replaceFrom pattern fresh 0 (mark :: ys) = mark :: replaceFrom pattern fresh 0 ys
    rw [replaceFrom, here, if_neg Bool.false_ne_true]
  | cons x xs ih =>
    cases skip with
    | succ skip => exact ih skip (by simpa using le)
    | zero =>
      have same : pattern.isPrefixOf (x :: (xs ++ mark :: ys)) = pattern.isPrefixOf (x :: xs) := by
        rw [Bool.eq_iff_iff, List.isPrefixOf_iff_prefix, List.isPrefixOf_iff_prefix, ← List.cons_append]
        exact prefix_append_mark absent
      rw [List.cons_append, replaceFrom, replaceFrom, same]
      split
      · rename_i found
        have short := (List.isPrefixOf_iff_prefix.1 found).length_le
        rw [List.length_cons] at short
        rw [ih _ (by omega), List.append_assoc]
      · rw [ih 0 (Nat.zero_le _), List.cons_append]

end

theorem replaceAll_toList {s pattern fresh : String} (nonempty : pattern.toList ≠ []) :
    (replaceAll s pattern fresh).toList = replaceFrom pattern.toList fresh.toList 0 s.toList := by
  have long : pattern.isEmpty = false := by
    rw [← Bool.not_eq_true, String.isEmpty_iff]
    rintro rfl
    exact nonempty rfl
  rw [replaceAll, long, if_neg Bool.false_ne_true, String.toList_ofList]

end DesignMarkup.Text
