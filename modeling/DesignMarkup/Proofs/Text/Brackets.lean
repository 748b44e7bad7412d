import DesignMarkup.Proofs.Text.Framing
/-!
Text whose brackets are balanced. Behind it a closing bracket is one that was opened before, so this is
where the text ends.
-/
namespace DesignMarkup.Text

def isNoBracket (c : Char) : Bool := c != '(' && c != ')'

inductive Balanced : List Char → Prop where
  | nil : Balanced []
  | char {c : Char} {rest : List Char} (plain : isNoBracket c = true) (tail : Balanced rest) :
      Balanced (c :: rest)
  | group {inside rest : List Char} (inner : Balanced inside) (tail : Balanced rest) :
      Balanced ('(' :: (inside ++ ')' :: rest))

theorem balanced_of_plain {s : List Char} (plain : ∀ c ∈ s, isNoBracket c = true) : Balanced s := by
  induction s with
  | nil => exact .nil
  | cons c rest ih =>
    rw [List.forall_mem_cons] at plain
    exact .char plain.1 (ih plain.2)

theorem Balanced.append {s t : List Char} (first : Balanced s) (second : Balanced t) :
    Balanced (s ++ t) := by
  induction first with
  | nil => exact second
  | char plain _ ih => exact .char plain ih
  | group inner _ _ ih =>
    rw [List.cons_append, List.append_assoc, List.cons_append]
    exact .group inner ih

theorem Balanced.intercalate {separator : List Char} {pieces : List (List Char)}
    (between : Balanced separator) (each : ∀ piece ∈ pieces, Balanced piece) :
    Balanced (separator.intercalate pieces) := by
  cases pieces with
  | nil => exact .nil
  | cons first rest =>
    rw [List.forall_mem_cons] at each
    rw [intercalate_cons]
    apply each.1.append
    have more := each.2
    clear each
    induction rest with
    | nil => exact .nil
    | cons piece rest ih =>
      rw [List.forall_mem_cons] at more
      rw [List.flatMap_cons]
      exact (between.append more.1).append (ih more.2)

/-- Balanced texts with a closing bracket behind them end where that one stands. -/
theorem Balanced.closed_split {a b s t : List Char} (first : Balanced a) (second : Balanced b)
    (same : a ++ ')' :: s = b ++ ')' :: t) : a = b ∧ s = t := by
  induction first generalizing b s t with
  | nil =>
    cases second with
    | nil => simpa using same
    | char plain _ =>
      obtain ⟨rfl, _⟩ := List.cons.inj same
      simp [isNoBracket] at plain
    | group => simp at same
  | @char c rest plain _ ih =>
    cases second with
    | nil =>
      obtain ⟨rfl, _⟩ := List.cons.inj same
      simp [isNoBracket] at plain
    | char _ tail =>
      obtain ⟨rfl, after⟩ := List.cons.inj same
      obtain ⟨rfl, ends⟩ := ih tail after
      exact ⟨rfl, ends⟩
    | group =>
      obtain ⟨rfl, _⟩ := List.cons.inj same
      simp [isNoBracket] at plain
  | @group inside rest _ _ innerIh restIh =>
    cases second with
    | nil => simp at same
    | char plain _ =>
      obtain ⟨rfl, _⟩ := List.cons.inj same
      simp [isNoBracket] at plain
    | group inner tail =>
      simp only [List.cons_append, List.append_assoc, List.cons.injEq, true_and] at same
      obtain ⟨rfl, later⟩ := innerIh inner same
      obtain ⟨rfl, ends⟩ := restIh tail later
      exact ⟨rfl, ends⟩

end DesignMarkup.Text
