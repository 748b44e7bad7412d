import DesignMarkup.Text.Case
import DesignMarkup.Text.Letter
import Mathlib.Data.List.TakeWhile
/-!
What letters become in the other case. Code points that are moved one by one stay letters; those that
become several may become a letter and marks.
-/
namespace DesignMarkup.Text

namespace Ranges

/-- Every `step`-th code point from `low` to `high` is in one of the ranges. -/
def coversEvery (step : Nat) : Ranges → (low high : Nat) → Bool
  | [], _, _ => false
  | range :: rest, low, high =>
    Nat.ble range.1 low &&
      bif Nat.blt range.2 low then coversEvery step rest low high
      else Nat.ble high range.2 ||
        coversEvery step rest (low + ((range.2 - low) / step + 1) * step) high

theorem covers_of_coversEvery {step : Nat} {ranges : Ranges} {low high k : Nat}
    (every : ranges.coversEvery step low high = true) (below : low + k * step ≤ high) :
    ranges.covers (low + k * step) = true := by
  induction ranges generalizing low k with
  | nil => exact nomatch every
  | cons range rest ih =>
    rw [coversEvery, Bool.and_eq_true, Nat.ble_eq] at every
    obtain ⟨above, every⟩ := every
    rw [covers, if_neg (by omega), Bool.or_eq_true, decide_eq_true_iff]
    cases passed : Nat.blt range.2 low with
    | true =>
      rw [passed, cond_true] at every
      exact .inr (ih every below)
    | false =>
      rw [passed, cond_false, Bool.or_eq_true, Nat.ble_eq] at every
      by_cases inside : low + k * step ≤ range.2
      · exact .inl inside
      have start : low ≤ range.2 := by
        rw [← Bool.not_eq_true, Nat.blt_eq] at passed
        omega
      rcases every with whole | every
      · omega
      · -- The first one behind the range is also among the code points looked for.
        have positive : 0 < step := Nat.pos_of_ne_zero fun none => inside (by simpa [none])
        have later : (range.2 - low) / step + 1 ≤ k :=
          (Nat.div_lt_iff_lt_mul positive).2 (by omega)
        obtain ⟨j, rfl⟩ := Nat.exists_eq_add_of_le later
        rw [Nat.add_mul, ← Nat.add_assoc] at below ⊢
        exact .inr (ih every below)

def reaching (n : Nat) (ranges : Ranges) : Ranges :=
  ranges.dropWhile fun range => Nat.blt range.1 n && Nat.blt range.2 n

theorem covers_of_reaching {n k : Nat} (le : n ≤ k) {ranges : Ranges}
    (covered : (ranges.reaching n).covers k = true) : ranges.covers k = true := by
  induction ranges with
  | nil => exact covered
  | cons range rest ih =>
    obtain ⟨first, last⟩ := range
    rw [reaching, List.dropWhile_cons] at covered
    split at covered
    · rename_i passed
      rw [Bool.and_eq_true, Nat.blt_eq, Nat.blt_eq] at passed
      rw [covers, if_neg (by omega), ih covered, Bool.or_true]
    · exact covered

theorem exists_of_covers {ranges : Ranges} {n : Nat} (covered : ranges.covers n = true) :
    ∃ range ∈ ranges, range.1 ≤ n ∧ n ≤ range.2 := by
  induction ranges with
  | nil => exact nomatch covered
  | cons range rest ih =>
    obtain ⟨first, last⟩ := range
    unfold covers at covered
    split at covered
    · cases covered
    · rw [Bool.or_eq_true, decide_eq_true_iff] at covered
      rcases covered with here | later
      · exact ⟨_, List.mem_cons_self, by omega, here⟩
      · obtain ⟨range, among, inside⟩ := ih later
        exact ⟨range, List.mem_cons_of_mem _ among, inside⟩

end Ranges

theorem alphabetic_isValidChar {n : Nat} (alphabetic : alphabeticRanges.covers n = true) :
    n.isValidChar := by
  have scalars : ∀ range ∈ alphabeticRanges,
      range.2 < 0xd800 ∨ 0xdfff < range.1 ∧ range.2 < 0x110000 := by decide +kernel
  obtain ⟨range, among, above, below⟩ := Ranges.exists_of_covers alphabetic
  have scalar := scalars range among
  unfold Nat.isValidChar
  omega

theorem isAlphabetic_ofNat {n : Nat} (alphabetic : alphabeticRanges.covers n = true) :
    isAlphabetic (Char.ofNat n) = true := by
  rw [isAlphabetic, Char.ofNat, dif_pos (alphabetic_isValidChar alphabetic)]
  exact alphabetic

/-- The letters from a code point on; those before the later Latin letters are a third of all ranges. -/
def lettersFrom (n : Nat) : Ranges :=
  bif Nat.blt n 0x1e00 then alphabeticRanges else alphabeticRanges.reaching 0x1e00

theorem covers_of_lettersFrom {n k : Nat} (le : n ≤ k) (covered : (lettersFrom n).covers k = true) :
    alphabeticRanges.covers k = true := by
  unfold lettersFrom at covered
  cases early : Nat.blt n 0x1e00 with
  | true => rwa [early, cond_true] at covered
  | false =>
    rw [early, cond_false] at covered
    rw [← Bool.not_eq_true, Nat.blt_eq] at early
    exact Ranges.covers_of_reaching (by omega) covered

namespace CaseRun

def keepsLetters (r : CaseRun) : Bool :=
  0 ≤ r.first + r.shift && (lettersFrom (r.first + r.shift).toNat).coversEvery r.step
    (r.first + r.shift).toNat (r.last + r.shift).toNat

theorem moved_isAlphabetic {r : CaseRun} (keeps : r.keepsLetters = true) {n : Nat}
    (covered : r.covers n = true) : isAlphabetic (Char.ofNat (n + r.shift).toNat) = true := by
  simp only [covers, Bool.and_eq_true, decide_eq_true_eq, beq_iff_eq] at covered
  obtain ⟨⟨above, below⟩, aligned⟩ := covered
  rw [keepsLetters, Bool.and_eq_true, decide_eq_true_iff] at keeps
  have steps : (n - r.first) / r.step * r.step = n - r.first := by
    have whole := Nat.div_add_mod' (n - r.first) r.step
    omega
  have place : (n + r.shift).toNat =
      (r.first + r.shift).toNat + (n - r.first) / r.step * r.step := by
    omega
  have covered := Ranges.covers_of_coversEvery (k := (n - r.first) / r.step) keeps.2 (by omega)
  have behind := Nat.le_add_right (r.first + r.shift).toNat ((n - r.first) / r.step * r.step)
  rw [place]
  exact isAlphabetic_ofNat (covers_of_lettersFrom behind covered)

end CaseRun

theorem tables_keepLetters : lowerTable.runs.all (·.keepsLetters) = true ∧
    upperTable.runs.all (·.keepsLetters) = true := by
  decide +kernel

/-- A letter or digit becomes something else only if it becomes several code points. -/
theorem CaseTable.map_alphanumeric {t : CaseTable} (keeps : t.runs.all (·.keepsLetters) = true)
    {c : Char} (own : isAlphanumeric c = true)
    (several : ∀ codes, (c.toNat, codes) ∈ t.several →
      ∀ n ∈ codes, isAlphanumeric (Char.ofNat n) = true) :
    ∀ d ∈ t.map c, isAlphanumeric d = true := by
  intro d member
  obtain ⟨n, code, rfl⟩ := List.mem_map.1 member
  unfold CaseTable.codes at code
  split at code
  · rename_i codes found
    obtain ⟨front, back, split, _⟩ := List.lookup_eq_some_iff.1 found
    exact several codes (by rw [split]; simp) n code
  · split at code
    · rename_i run found
      obtain rfl := List.mem_singleton.1 code
      have covered : run.covers c.toNat = true := by simpa using List.find?_some found
      have kept := List.all_eq_true.1 keeps run (List.mem_of_find?_eq_some found)
      rw [isAlphanumeric, CaseRun.moved_isAlphabetic kept covered, Bool.true_or]
    · obtain rfl := List.mem_singleton.1 code
      rwa [Char.ofNat_toNat]

theorem CaseTable.map_ne_nil {t : CaseTable} (filled : ∀ entry ∈ t.several, entry.2 ≠ []) (c : Char) :
    t.map c ≠ [] := by
  intro empty
  have none : t.codes c.toNat = [] := List.map_eq_nil_iff.1 empty
  unfold CaseTable.codes at none
  split at none
  · rename_i codes found
    obtain ⟨front, back, split, _⟩ := List.lookup_eq_some_iff.1 found
    exact filled (c.toNat, codes) (by rw [split]; simp) none
  · split at none <;> cases none

end DesignMarkup.Text
