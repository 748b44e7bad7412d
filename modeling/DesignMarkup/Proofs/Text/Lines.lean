import DesignMarkup.Json.Printer
import Mathlib.Algebra.Ring.Nat
import DesignMarkup.Proofs.Text.Framing
/-!
Texts on one line, and texts whose lines are all moved to the right by the same number of levels. What is
written at a depth `Shifts` if depth does nothing but that, and leaves the number of lines as it is.
-/
namespace DesignMarkup.Text

def OneLine (text : List Char) : Prop := '\n' ∉ text

instance (text : List Char) : Decidable (OneLine text) := inferInstanceAs (Decidable ('\n' ∉ text))

def shiftLines (levels : Nat) (text : List Char) : List Char :=
  text.flatMap fun c => if c = '\n' then '\n' :: List.replicate (2 * levels) ' ' else [c]

section
variable {s t : List Char}

theorem oneLine_of_all {p : Char → Bool} (inside : ∀ c ∈ s, p c = true) (other : p '\n' = false) :
    OneLine s := by
  intro line
  rw [inside _ line] at other
  cases other

theorem OneLine.append (first : OneLine s) (second : OneLine t) : OneLine (s ++ t) :=
  fun line => (List.mem_append.1 line).elim first second

theorem OneLine.cons {c : Char} (first : c ≠ '\n') (rest : OneLine s) : OneLine (c :: s) := by
  intro line
  rcases List.mem_cons.1 line with same | later
  · exact first same.symm
  · exact rest later

theorem oneLine_flatMap {α : Type} {items : List α} {write : α → List Char}
    (each : ∀ a ∈ items, OneLine (write a)) : OneLine (items.flatMap write) := by
  intro line
  obtain ⟨a, member, here⟩ := List.mem_flatMap.1 line
  exact each a member here

theorem OneLine.intercalate {separator : List Char} {pieces : List (List Char)}
    (between : OneLine separator) (each : ∀ piece ∈ pieces, OneLine piece) :
    OneLine (separator.intercalate pieces) := by
  cases pieces with
  | nil => exact List.not_mem_nil
  | cons first rest =>
    rw [List.forall_mem_cons] at each
    rw [intercalate_cons]
    exact each.1.append (oneLine_flatMap fun piece member => between.append (each.2 piece member))

@[simp] theorem shiftLines_append (levels : Nat) (s t : List Char) :
    shiftLines levels (s ++ t) = shiftLines levels s ++ shiftLines levels t := List.flatMap_append

theorem shiftLines_oneLine (levels : Nat) (oneLine : OneLine s) : shiftLines levels s = s := by
  induction s with
  | nil => rfl
  | cons c rest ih =>
    rw [OneLine, List.mem_cons, not_or] at oneLine
    rw [shiftLines, List.flatMap_cons, if_neg (Ne.symm oneLine.1), ← shiftLines, ih oneLine.2]
    rfl

end

structure Shifts (write : Nat → List Char) (breaks : Nat) : Prop where
  shift : ∀ depth levels, write (depth + levels) = shiftLines levels (write depth)
  count : ∀ depth, (write depth).count '\n' = breaks

namespace Shifts
variable {write next : Nat → List Char} {m n : Nat}

theorem oneLine {text : List Char} (line : OneLine text) : Shifts (fun _ => text) 0 where
  shift _ levels := (shiftLines_oneLine levels line).symm
  count _ := List.count_eq_zero.2 line

theorem newline : Shifts Json.newline 1 where
  shift depth levels := by
    have blanks : OneLine (List.replicate (2 * depth) ' ') :=
      fun line => nomatch List.eq_of_mem_replicate line
    calc Json.newline (depth + levels)
        = '\n' :: List.replicate (2 * levels) ' ' ++ List.replicate (2 * depth) ' ' := by
          rw [Json.newline, Nat.add_comm, Nat.mul_add, List.cons_append, List.replicate_append_replicate]
      _ = shiftLines levels ['\n'] ++ shiftLines levels (List.replicate (2 * depth) ' ') := by
          rw [shiftLines_oneLine levels blanks]
          simp [shiftLines]
      _ = shiftLines levels (Json.newline depth) := (shiftLines_append levels ['\n'] _).symm
  count depth := by simp [Json.newline, List.count_replicate]

theorem append (first : Shifts write m) (second : Shifts next n) :
    Shifts (fun depth => write depth ++ next depth) (m + n) where
  shift depth levels := by rw [first.shift, second.shift, shiftLines_append]
  count depth := by rw [List.count_append, first.count, second.count]

theorem deeper (h : Shifts write n) : Shifts (fun depth => write (depth + 1)) n where
  shift depth levels := by rw [Nat.add_right_comm, h.shift]
  count depth := h.count (depth + 1)

theorem flatMap {α : Type} {items : List α} {write : α → Nat → List Char} {breaks : α → Nat}
    (each : ∀ a ∈ items, Shifts (write a) (breaks a)) :
    Shifts (fun depth => items.flatMap (write · depth)) (items.map breaks).sum := by
  induction items with
  | nil => exact oneLine List.not_mem_nil
  | cons a rest ih =>
    rw [List.forall_mem_cons] at each
    simp only [List.flatMap_cons, List.map_cons, List.sum_cons]
    exact each.1.append (ih each.2)

end Shifts
end DesignMarkup.Text
