import DesignMarkup.Text.Basic
/-!
The pieces between separators: none of them holds a separator, and a text that is put together from
such pieces is cut into them again. A text is cut in two where nothing behind is a separator.
-/
namespace DesignMarkup.Text
variable {separates : Char → Bool}

theorem startsWith_char {mark : String} {c : Char} (single : mark.toList = [c]) (text : String) :
    startsWith text mark = true ↔ text.toList.head? = some c := by
  rw [startsWith, single]
  cases text.toList with
  | nil => simp
  | cons first rest =>
    simp only [List.isPrefixOf, Bool.and_true, beq_iff_eq, List.head?_cons, Option.some.injEq]
    rw [eq_comm]

theorem mem_splitBy {s piece : List Char}
    (member : piece ∈ splitBy separates s) : ∀ c ∈ piece, separates c = false := by
  induction s generalizing piece with
  | nil =>
    rw [List.mem_singleton.1 member]
    exact List.forall_mem_nil _
  | cons c rest ih =>
    rw [splitBy] at member
    split at member
    · rcases List.mem_cons.1 member with rfl | later
      · exact List.forall_mem_nil _
      · exact ih later
    · rename_i kept _
      rw [List.mem_singleton.1 member]
      exact List.forall_mem_singleton.2 kept
    · rename_i first pieces kept split
      rcases List.mem_cons.1 member with rfl | later
      · exact List.forall_mem_cons.2 ⟨kept, ih (split ▸ List.mem_cons_self)⟩
      · exact ih (split ▸ List.mem_cons_of_mem _ later)

theorem splitBy_piece {piece : List Char} (free : ∀ c ∈ piece, separates c = false) :
    splitBy separates piece = [piece] := by
  induction piece with
  | nil => rfl
  | cons c rest ih =>
    obtain ⟨here, later⟩ := List.forall_mem_cons.1 free
    rw [splitBy, here, ih later]

theorem splitBy_separator {piece : List Char} (free : ∀ c ∈ piece, separates c = false) {mark : Char}
    (separator : separates mark = true) (rest : List Char) :
    splitBy separates (piece ++ mark :: rest) = piece :: splitBy separates rest := by
  induction piece with
  | nil => rw [List.nil_append, splitBy, separator]
  | cons c more ih =>
    obtain ⟨here, later⟩ := List.forall_mem_cons.1 free
    rw [List.cons_append, splitBy, here, ih later]

theorem splitBy_ne_nil (s : List Char) : splitBy separates s ≠ [] := by
  cases s with
  | nil => simp [splitBy]
  | cons c rest =>
    rw [splitBy]
    split <;> simp

theorem splitBy_append (s : List Char) {mark : Char} (separator : separates mark = true)
    (rest : List Char) :
    splitBy separates (s ++ mark :: rest) = splitBy separates s ++ splitBy separates rest := by
  induction s with
  | nil => simp [splitBy, separator]
  | cons c more ih =>
    rw [List.cons_append, splitBy, splitBy, ih]
    cases separates c with
    | true => rfl
    | false =>
      cases pieces : splitBy separates more with
      | nil => exact absurd pieces (splitBy_ne_nil more)
      | cons piece others => rfl

theorem splitLast?_append {a b : List Char} {mark : Char} (last : mark ∉ b) :
    splitLast? (String.ofList (a ++ mark :: b)) mark = some (String.ofList a, String.ofList b) := by
  have inside : (a ++ mark :: b).contains mark = true := by simp
  have behind : ∀ c ∈ b.reverse, (c != mark) = true := by
    intro c member
    simp only [bne_iff_ne]
    intro same
    exact last (same ▸ List.mem_reverse.1 member)
  rw [splitLast?, String.toList_ofList, if_pos inside]
  simp only [List.reverse_append, List.reverse_cons, List.append_assoc]
  rw [List.takeWhile_append_of_pos behind, List.dropWhile_append_of_pos behind]
  simp

theorem splitLast?_eq_some {s front last : String} {mark : Char} :
    splitLast? s mark = some (front, last) ↔
      s.toList = front.toList ++ mark :: last.toList ∧ mark ∉ last.toList := by
  constructor
  · intro cut
    have inside : mark ∈ s.toList.reverse := by
      unfold splitLast? at cut
      split at cut
      · rename_i here
        exact List.mem_reverse.2 (List.contains_iff_mem.1 here)
      · cases cut
    obtain ⟨behind, before, split, free⟩ := List.eq_append_cons_of_mem inside
    have whole : s.toList = before.reverse ++ mark :: behind.reverse := by
      rw [← List.reverse_reverse s.toList, split]
      simp
    have free : mark ∉ behind.reverse := by simpa using free
    rw [← String.ofList_toList (s := s), whole, splitLast?_append free] at cut
    obtain ⟨rfl, rfl⟩ := Prod.mk.inj (Option.some.inj cut)
    simpa [whole] using free
  · intro ⟨whole, free⟩
    rw [← String.ofList_toList (s := s), whole, splitLast?_append free, String.ofList_toList,
      String.ofList_toList]

end DesignMarkup.Text
