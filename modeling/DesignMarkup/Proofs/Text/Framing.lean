import DesignMarkup.Proofs.Lists
import Mathlib.Data.List.TakeWhile
/-!
Telling apart what was written one after the other. A writing `Splits` a value off a text if the
text shows where the value ends and which one it is.
-/
namespace DesignMarkup.Text
variable {α : Type}

def always (_ : α) : Prop := True

def Stops (p : Char → Bool) (s : List Char) : Prop := ∀ c ∈ s.head?, p c = false

theorem stops_cons {p : Char → Bool} {c : Char} {s : List Char} (h : p c = false) :
    Stops p (c :: s) := by
  rintro _ ⟨⟩
  exact h

def GoesOn (mark : Char) (s : List Char) : Prop := s.head? = some mark

theorem goesOn_cons {mark c : Char} {s : List Char} : GoesOn mark (c :: s) ↔ c = mark := by
  simp [GoesOn]

theorem GoesOn.stops {p : Char → Bool} {mark : Char} {s : List Char} (h : GoesOn mark s)
    (other : p mark = false) : Stops p s := by
  intro c first
  rw [GoesOn.eq_1, Option.mem_def.1 first, Option.some.injEq] at h
  rw [h, other]

theorem takeWhile_token {p : Char → Bool} {token s : List Char} (inside : ∀ c ∈ token, p c = true)
    (ends : Stops p s) : (token ++ s).takeWhile p = token ∧ (token ++ s).dropWhile p = s := by
  rw [List.takeWhile_append_of_pos inside, List.dropWhile_append_of_pos inside]
  cases s with
  | nil => simp
  | cons c rest =>
    have stop := ends c rfl
    simp [stop]

theorem token_split {p : Char → Bool} {a b s t : List Char} (inA : ∀ c ∈ a, p c = true)
    (inB : ∀ c ∈ b, p c = true) (endA : Stops p s) (endB : Stops p t) (same : a ++ s = b ++ t) :
    a = b ∧ s = t := by
  obtain ⟨takeA, dropA⟩ := takeWhile_token inA endA
  obtain ⟨takeB, dropB⟩ := takeWhile_token inB endB
  exact ⟨by rw [← takeA, same, takeB], by rw [← dropA, same, dropB]⟩

/-- Before texts that may follow, `a` is told from all other values of the kind `P`. -/
def Splits (P : α → Prop) (write : α → List Char) (Follows : List Char → Prop) (a : α) : Prop :=
  ∀ b, P b → ∀ s t, Follows s → Follows t → write a ++ s = write b ++ t → a = b ∧ s = t

theorem Splits.after {P : α → Prop} {write : α → List Char} {Follows : List Char → Prop} {a : α}
    (h : Splits P write Follows a) (front : List Char) :
    Splits P (fun b => front ++ write b) Follows a := by
  intro b hb s t endA endB same
  simp only [List.append_assoc] at same
  exact h b hb s t endA endB (List.append_cancel_left same)

section
variable {P : α → Prop} {write : α → List Char} {Follows Ends : List Char → Prop}
  {xs ys : List α} {s t : List Char}

theorem row_follows (next : ∀ a s, P a → Follows (write a ++ s)) (last : ∀ s, Ends s → Follows s)
    (inX : ∀ a ∈ xs, P a) (ends : Ends s) : Follows (xs.flatMap write ++ s) := by
  cases xs with
  | nil => exact last s ends
  | cons a rest =>
    rw [List.flatMap_cons, List.append_assoc]
    exact next a _ (inX a List.mem_cons_self)

theorem row_split (each : ∀ a ∈ xs, Splits P write Follows a)
    (next : ∀ a s, P a → Follows (write a ++ s)) (last : ∀ s, Ends s → Follows s)
    (apart : ∀ a s, P a → ¬ Ends (write a ++ s)) (inX : ∀ a ∈ xs, P a) (inY : ∀ b ∈ ys, P b)
    (endX : Ends s) (endY : Ends t) (same : xs.flatMap write ++ s = ys.flatMap write ++ t) :
    xs = ys ∧ s = t := by
  induction xs generalizing ys with
  | nil =>
    cases ys with
    | nil => exact ⟨rfl, same⟩
    | cons b rest =>
      rw [List.flatMap_nil, List.nil_append, List.flatMap_cons, List.append_assoc] at same
      exact absurd (same ▸ endX) (apart b _ (inY b List.mem_cons_self))
  | cons a xs ih =>
    cases ys with
    | nil =>
      rw [List.flatMap_nil, List.nil_append, List.flatMap_cons, List.append_assoc] at same
      exact absurd (same ▸ endY) (apart a _ (inX a List.mem_cons_self))
    | cons b ys =>
      rw [List.forall_mem_cons] at each inX inY
      simp only [List.flatMap_cons, List.append_assoc] at same
      obtain ⟨rfl, rest⟩ := each.1 b inY.1 _ _ (row_follows next last inX.2 endX)
        (row_follows next last inY.2 endY) same
      obtain ⟨rfl, rfl⟩ := ih each.2 inX.2 inY.2 rest
      exact ⟨rfl, rfl⟩

theorem separated_split {separator : List Char} (each : ∀ a ∈ xs, Splits P write Follows a)
    (next : ∀ s, Follows (separator ++ s)) (last : ∀ s, Ends s → Follows s)
    (apart : ∀ s, ¬ Ends (separator ++ s)) (begins : ∀ a s, P a → ¬ Ends (write a ++ s))
    (inX : ∀ a ∈ xs, P a) (inY : ∀ b ∈ ys, P b) (endX : Ends s) (endY : Ends t)
    (same : separator.intercalate (xs.map write) ++ s =
      separator.intercalate (ys.map write) ++ t) : xs = ys ∧ s = t := by
  have text (a : α) (rest : List α) : separator.intercalate ((a :: rest).map write) =
      write a ++ rest.flatMap fun b => separator ++ write b := by
    rw [List.map_cons, intercalate_cons, List.flatMap_map]
  have goesOn (a : α) (s : List Char) (_ : P a) : Follows ((separator ++ write a) ++ s) := by
    rw [List.append_assoc]
    exact next _
  have goesOnApart (a : α) (s : List Char) (_ : P a) : ¬ Ends ((separator ++ write a) ++ s) := by
    rw [List.append_assoc]
    exact apart _
  cases xs with
  | nil =>
    cases ys with
    | nil => exact ⟨rfl, same⟩
    | cons b ys =>
      rw [List.map_nil, List.intercalate_nil, List.nil_append, text, List.append_assoc] at same
      exact absurd (same ▸ endX) (begins b _ (inY b List.mem_cons_self))
  | cons a xs =>
    cases ys with
    | nil =>
      rw [List.map_nil, List.intercalate_nil, List.nil_append, text, List.append_assoc] at same
      exact absurd (same ▸ endY) (begins a _ (inX a List.mem_cons_self))
    | cons b ys =>
      rw [List.forall_mem_cons] at each inX inY
      rw [text, text, List.append_assoc, List.append_assoc] at same
      obtain ⟨rfl, rest⟩ := each.1 b inY.1 _ _ (row_follows goesOn last inX.2 endX)
        (row_follows goesOn last inY.2 endY) same
      obtain ⟨rfl, rfl⟩ := row_split (fun c member => (each.2 c member).after separator) goesOn last
        goesOnApart inX.2 inY.2 endX endY rest
      exact ⟨rfl, rfl⟩

end

/-- If no value's text begins that of another one, the values are told apart whatever follows. -/
theorem splits_of_prefixFree {P : α → Prop} {write : α → List Char} {Follows : List Char → Prop}
    (free : ∀ a b, write a <+: write b → a = b) (a : α) : Splits P write Follows a := by
  intro b _ s t _ _ same
  have equal : a = b := by
    rcases List.prefix_or_prefix_of_prefix (List.prefix_append (write a) s)
      (same ▸ List.prefix_append (write b) t) with first | second
    · exact free a b first
    · exact (free b a second).symm
  subst equal
  exact ⟨rfl, List.append_cancel_left same⟩

end DesignMarkup.Text
