import DesignMarkup.Decimal.Shortest
import Mathlib.Algebra.Order.Field.Power
import Mathlib.Data.List.TakeWhile
import Mathlib.Tactic.Linarith
import Mathlib.Tactic.Positivity
import Mathlib.Tactic.Ring
/-!
The windows of numbers do not overlap, and the shortest decimal of a number lies in its window: so
no two numbers have one decimal.
-/
namespace DesignMarkup.Decimal

def Binary.value (b : Binary) : ℚ := b.mantissa * 2 ^ b.exponent

def Digits.value (d : Digits) : ℚ := d.digits * 10 ^ d.exponent

/-- As a stored number: the mantissa has its first bit, or the exponent is the least one. -/
structure Binary.Normal (b : Binary) : Prop where
  mantissa : b.mantissa < 2 ^ 53
  least : -1074 ≤ b.exponent
  filled : 2 ^ 52 ≤ b.mantissa ∨ b.exponent = -1074

/-- The decimal is read as the number; a quarter of the last place is the unit of the window. -/
def Binary.Names (b : Binary) (q : ℚ) : Prop :=
  let quarter : ℚ := 2 ^ (b.exponent - 2)
  if b.window.closed then b.window.low * quarter ≤ q ∧ q ≤ b.window.high * quarter
  else b.window.low * quarter < q ∧ q < b.window.high * quarter

theorem Binary.Names.between {b : Binary} {q : ℚ} (h : b.Names q) :
    b.window.low * 2 ^ (b.exponent - 2) ≤ q ∧ q ≤ b.window.high * 2 ^ (b.exponent - 2) := by
  unfold Names at h
  split at h
  · exact h
  · exact ⟨h.1.le, h.2.le⟩

theorem Binary.Names.inside {b : Binary} {q : ℚ} (h : b.Names q) (odd : b.mantissa % 2 = 1) :
    b.window.low * 2 ^ (b.exponent - 2) < q ∧ q < b.window.high * 2 ^ (b.exponent - 2) := by
  have opened : b.window.closed = false := by simp [window, odd]
  simpa [Names, opened] using h

theorem window_low (b : Binary) :
    (b.mantissa ≠ 2 ^ 52 ∨ b.exponent = -1074) ∧ b.window.low = 4 * b.mantissa - 2 ∨
      (b.mantissa = 2 ^ 52 ∧ b.exponent ≠ -1074) ∧ b.window.low = 4 * b.mantissa - 1 := by
  unfold Binary.window
  by_cases first : b.mantissa = hiddenBit ∧ b.exponent ≠ -1074
  · exact .inr ⟨first, by simp only [if_pos first]⟩
  · exact .inl ⟨(not_and_or.1 first).imp_right not_not.1, by simp only [if_neg first]⟩

theorem window_high (b : Binary) : b.window.high = 4 * b.mantissa + 2 := rfl

/-- Windows that share a decimal: the coarser one is `2 ^ j` times as coarse. -/
theorem shared_ends {b c : Binary} {q : ℚ} {j : Nat} (finer : c.exponent = b.exponent + j)
    (hb : b.Names q) (hc : c.Names q) :
    b.window.low ≤ c.window.high * 2 ^ j ∧ c.window.low * 2 ^ j ≤ b.window.high ∧
      (b.mantissa % 2 = 1 ∨ c.mantissa % 2 = 1 →
        b.window.low < c.window.high * 2 ^ j ∧ c.window.low * 2 ^ j < b.window.high) := by
  have quarter : (0 : ℚ) < 2 ^ (b.exponent - 2) := by positivity
  have scale : (2 : ℚ) ^ (c.exponent - 2) = 2 ^ j * 2 ^ (b.exponent - 2) := by
    rw [finer, show b.exponent + (j : ℤ) - 2 = (j : ℤ) + (b.exponent - 2) by ring,
      zpow_add₀ two_ne_zero, zpow_natCast]
  have le {x y : Nat} (h : (x : ℚ) * 2 ^ (b.exponent - 2) ≤ y * 2 ^ (b.exponent - 2)) : x ≤ y :=
    Nat.cast_le.1 (le_of_mul_le_mul_right h quarter)
  have lt {x y : Nat} (h : (x : ℚ) * 2 ^ (b.exponent - 2) < y * 2 ^ (b.exponent - 2)) : x < y :=
    Nat.cast_lt.1 (lt_of_mul_lt_mul_right h quarter.le)
  have ofCoarse (n : Nat) : (n : ℚ) * 2 ^ (c.exponent - 2) =
      ((n * 2 ^ j : Nat) : ℚ) * 2 ^ (b.exponent - 2) := by
    rw [scale]
    push_cast
    ring
  have endsB := hb.between
  have endsC := hc.between
  rw [ofCoarse, ofCoarse] at endsC
  refine ⟨le (endsB.1.trans endsC.2), le (endsC.1.trans endsB.2), ?_⟩
  rintro (odd | odd)
  · have inside := hb.inside odd
    exact ⟨lt (inside.1.trans_le endsC.2), lt (endsC.1.trans_lt inside.2)⟩
  · have inside := hc.inside odd
    rw [ofCoarse, ofCoarse] at inside
    exact ⟨lt (endsB.1.trans_lt inside.2), lt (inside.1.trans_le endsB.2)⟩

/-- Between two numbers of one exponent there is at most an end that belongs to neither or that
the even one of them has. -/
theorem names_same_exponent {b c : Binary} {q : ℚ} (hb : b.Normal) (hc : c.Normal)
    (same : c.exponent = b.exponent) (nb : b.Names q) (nc : c.Names q) : b = c := by
  obtain ⟨low, high, strict⟩ := shared_ends (j := 0) (by simpa using same) nb nc
  simp only [pow_zero, mul_one, window_high] at low high strict
  have mantissa : b.mantissa = c.mantissa := by
    have := hb.filled
    have := hc.filled
    rcases window_low b with ⟨_, lowB⟩ | ⟨_, lowB⟩ <;> rcases window_low c with ⟨_, lowC⟩ | ⟨_, lowC⟩ <;>
      rw [lowB, lowC] at strict <;> rw [lowB] at low <;> rw [lowC] at high <;> omega
  cases b
  cases c
  simp_all

theorem names_exponent_le {b c : Binary} {q : ℚ} (hb : b.Normal) (hc : c.Normal)
    (nb : b.Names q) (nc : c.Names q) : c.exponent ≤ b.exponent := by
  by_contra coarser
  obtain ⟨j, finer⟩ : ∃ j : Nat, c.exponent = b.exponent + (j + 1 : Nat) :=
    ⟨(c.exponent - b.exponent - 1).toNat, by omega⟩
  obtain ⟨-, high, strict⟩ := shared_ends finer nb nc
  have filled : 2 ^ 52 ≤ c.mantissa := hc.filled.resolve_right (by have := hb.least; omega)
  have doubled : c.window.low * 2 ≤ c.window.low * 2 ^ (j + 1) :=
    Nat.mul_le_mul_left _ (by rw [pow_succ]; have := Nat.one_le_two_pow (n := j); omega)
  have small := hb.mantissa
  simp only [window_high] at high strict
  have least := hb.least
  rcases window_low c with ⟨_, lowC⟩ | ⟨_, lowC⟩ <;> omega

/-- A decimal names no more than one number. -/
theorem names_unique {b c : Binary} {q : ℚ} (hb : b.Normal) (hc : c.Normal) (nb : b.Names q)
    (nc : c.Names q) : b = c :=
  names_same_exponent hb hc
    (le_antisymm (names_exponent_le hb hc nb nc) (names_exponent_le hc hb nc nb)) nb nc

theorem pow_toNat {a : ℚ} (nonzero : a ≠ 0) (n : ℤ) : a ^ n.toNat = a ^ (-n).toNat * a ^ n := by
  rw [← zpow_natCast, ← zpow_natCast, ← zpow_add₀ nonzero]
  congr 1
  omega

theorem grid_eq (e k : Int) : ∃ unit : ℚ, 0 < unit ∧
    ((grid e k).1 : ℚ) = unit * 2 ^ (e - 2) ∧ ((grid e k).2 : ℚ) = unit * 10 ^ k := by
  refine ⟨2 ^ (2 - e).toNat * 10 ^ (-k).toNat, by positivity, ?_, ?_⟩
  · simp only [grid, Nat.pow_eq, Nat.cast_mul, Nat.cast_pow, Nat.cast_ofNat]
    rw [pow_toNat two_ne_zero (e - 2), neg_sub]
    ring
  · simp only [grid, Nat.pow_eq, Nat.cast_mul, Nat.cast_pow, Nat.cast_ofNat]
    rw [pow_toNat (by norm_num) k]
    ring

theorem names_of_holds {b : Binary} {k : Int} {c : Nat}
    (h : b.window.holds (grid b.exponent k).1 (grid b.exponent k).2 c = true) :
    b.Names (Digits.value ⟨c, k⟩) := by
  obtain ⟨unit, positive, num, den⟩ := grid_eq b.exponent k
  have edge (n : Nat) : ((n * (grid b.exponent k).1 : Nat) : ℚ) =
      unit * (n * 2 ^ (b.exponent - 2)) := by
    push_cast
    rw [num]
    ring
  have point : ((c * (grid b.exponent k).2 : Nat) : ℚ) = unit * Digits.value ⟨c, k⟩ := by
    push_cast
    rw [den, Digits.value]
    ring
  unfold Window.holds at h
  unfold Binary.Names
  split at h
  · rename_i closed
    rw [if_pos closed]
    obtain ⟨low, high⟩ := of_decide_eq_true h
    have low : (_ : ℚ) ≤ _ := Nat.cast_le.2 low
    have high : (_ : ℚ) ≤ _ := Nat.cast_le.2 high
    rw [edge, point] at low high
    exact ⟨le_of_mul_le_mul_left low positive, le_of_mul_le_mul_left high positive⟩
  · rename_i opened
    rw [if_neg opened]
    obtain ⟨low, high⟩ := of_decide_eq_true h
    have low : (_ : ℚ) < _ := Nat.cast_lt.2 low
    have high : (_ : ℚ) < _ := Nat.cast_lt.2 high
    rw [edge, point] at low high
    exact ⟨lt_of_mul_lt_mul_left low positive.le, lt_of_mul_lt_mul_left high positive.le⟩

theorem holds_of_nearest {tie : Tie} {w : Window} {num den c : Nat}
    (h : nearest tie w num den = some c) : w.holds num den c = true := by
  unfold nearest at h
  simp only at h
  split at h
  · rename_i below above
    split at h
    · cases h; exact below
    · split at h
      · cases h; exact above
      · split at h
        · cases h; exact above
        · split at h <;> cases h <;> assumption
  · cases h; assumption
  · cases h; assumption
  · cases h

theorem holds_of_inside {w : Window} {num den c : Nat} (low : w.low * num < c * den)
    (high : c * den < w.high * num) : w.holds num den c = true := by
  unfold Window.holds
  split
  · exact decide_eq_true ⟨low.le, high.le⟩
  · exact decide_eq_true ⟨low, high⟩

theorem nearest_isSome_of_holds (tie : Tie) {w : Window} {num den : Nat}
    (near : w.holds num den (w.value * num / den) = true ∨
      w.holds num den (w.value * num / den + 1) = true) :
    (nearest tie w num den).isSome = true := by
  unfold nearest
  simp only
  split
  · split
    · rfl
    · split
      · rfl
      · split <;> rfl
  · rfl
  · rfl
  · rename_i notBelow notAbove
    simp [notBelow, notAbove] at near

/-- On a grid whose step is at most the number's `10 ^ -16`, one of the neighbours of the number is
less than half a step away, which is less than to the ends of the window. -/
theorem nearest_isSome (tie : Tie) {b : Binary} {num den : Nat} (small : b.mantissa < 2 ^ 53)
    (positive : 0 < num) (fine : den * 10 ^ 16 ≤ b.window.value * num) (step : 0 < den) :
    (nearest tie b.window num den).isSome = true := by
  apply nearest_isSome_of_holds
  have split := Nat.div_add_mod (b.window.value * num) den
  have rest := Nat.mod_lt (b.window.value * num) step
  generalize b.window.value * num / den = below at split
  generalize b.window.value * num % den = gap at split rest
  have value : b.window.value * num = 4 * (b.mantissa * num) := Nat.mul_assoc ..
  have high : b.window.high * num = 4 * (b.mantissa * num) + 2 * num := by
    rw [window_high, Nat.add_mul, Nat.mul_assoc]
  rw [value] at split fine
  have bounded : b.mantissa * num ≤ (2 ^ 53 - 1) * num := Nat.mul_le_mul_right _ (by omega)
  have reach : den < 2 * (4 * (b.mantissa * num) - b.window.low * num) ∧
      b.window.low * num < 4 * (b.mantissa * num) := by
    rcases window_low b with ⟨_, low⟩ | ⟨⟨first, _⟩, low⟩
    · rw [low, Nat.sub_mul, Nat.mul_assoc]
      omega
    · rw [low, Nat.sub_mul, Nat.mul_assoc, first]
      rw [first] at fine
      omega
  by_cases closer : 2 * gap ≤ den
  · left
    refine holds_of_inside ?_ ?_ <;> rw [Nat.mul_comm below den] <;> omega
  · right
    refine holds_of_inside ?_ ?_ <;> rw [Nat.mul_comm (below + 1) den, Nat.mul_add] <;> omega

theorem lt_pow_digitCount (n : Nat) : n < 10 ^ digitCount n :=
  (Nat.length_toDigits_le_iff (by decide) Nat.length_toDigits_pos).1 le_rfl

theorem pow_digitCount_le {n : Nat} (positive : 0 < n) : 10 ^ (digitCount n - 1) ≤ n := by
  by_contra less
  rcases Nat.eq_zero_or_pos (digitCount n - 1) with one | more
  · rw [one] at less
    omega
  · have fewer := (Nat.length_toDigits_le_iff (by decide) more).2 (not_le.1 less)
    unfold digitCount at fewer more
    omega

theorem magnitude_le {num den : Nat} (positive : 0 < num) :
    (10 : ℚ) ^ magnitude num den * den ≤ num := by
  have ten : (10 : ℚ) ≠ 0 := by norm_num
  unfold magnitude
  simp only [Nat.pow_eq]
  split
  · rename_i above
    have above : (_ : ℚ) ≤ _ := Nat.cast_le.2 above
    push_cast at above
    rw [pow_toNat ten] at above
    refine le_of_mul_le_mul_left (?_ : (10 : ℚ) ^ _ * _ ≤ 10 ^ _ * _)
      (show (0 : ℚ) < 10 ^ (-((digitCount num : ℤ) - digitCount den)).toNat by positivity)
    linarith
  · have numLow : (10 : ℚ) ^ (digitCount num - 1) ≤ num := by exact_mod_cast pow_digitCount_le positive
    have denHigh : (den : ℚ) ≤ 10 ^ digitCount den := by exact_mod_cast (lt_pow_digitCount den).le
    have digits : 0 < digitCount num := Nat.length_toDigits_pos
    calc (10 : ℚ) ^ ((digitCount num : ℤ) - digitCount den - 1) * den
        ≤ 10 ^ ((digitCount num : ℤ) - digitCount den - 1) * 10 ^ digitCount den := by gcongr
      _ = 10 ^ (digitCount num - 1) := by
        rw [← zpow_natCast, ← zpow_natCast, ← zpow_add₀ ten]
        congr 1
        omega
      _ ≤ num := numLow

theorem pow_top_le {b : Binary} (positive : 0 < b.mantissa) :
    (10 : ℚ) ^ magnitude (b.mantissa * Nat.pow 2 b.exponent.toNat) (Nat.pow 2 (-b.exponent).toNat) ≤
      b.value := by
  have scaled : 0 < b.mantissa * Nat.pow 2 b.exponent.toNat :=
    Nat.mul_pos positive (Nat.pow_pos (by decide))
  have le : (10 : ℚ) ^ magnitude _ (Nat.pow 2 (-b.exponent).toNat) * _ ≤ _ := magnitude_le scaled
  refine le_of_mul_le_mul_right (le.trans_eq ?_)
    (show (0 : ℚ) < ((Nat.pow 2 (-b.exponent).toNat : Nat) : ℚ) by
      exact_mod_cast Nat.pow_pos (by decide))
  rw [Binary.value]
  push_cast [Nat.pow_eq]
  rw [pow_toNat two_ne_zero b.exponent]
  ring

theorem onGrid_isSome (tie : Tie) {b : Binary} (small : b.mantissa < 2 ^ 53) {k : Int}
    (fine : (10 : ℚ) ^ (k + 16) ≤ b.value) : (onGrid tie b k).isSome = true := by
  obtain ⟨unit, positive, num, den⟩ := grid_eq b.exponent k
  rw [onGrid, Option.isSome_map]
  refine nearest_isSome tie small ?_ ?_ ?_
  · exact Nat.mul_pos (Nat.pow_pos (by decide)) (Nat.pow_pos (by decide))
  · have fine : unit * (10 : ℚ) ^ (k + 16) ≤ unit * b.value :=
      mul_le_mul_of_nonneg_left fine positive.le
    have quarters : b.value = 4 * b.mantissa * 2 ^ (b.exponent - 2) := by
      rw [Binary.value, zpow_sub₀ two_ne_zero]
      ring
    rw [quarters, zpow_add₀ (by norm_num)] at fine
    rw [← Nat.cast_le (α := ℚ)]
    push_cast [Binary.window]
    rw [num, den]
    norm_num at fine ⊢
    linarith
  · exact Nat.mul_pos (Nat.pow_pos (by decide)) (Nat.pow_pos (by decide))

theorem names_of_onGrid {tie : Tie} {b : Binary} {k : Int} {d : Digits}
    (h : onGrid tie b k = some d) : b.Names d.value := by
  obtain ⟨c, found, rfl⟩ := Option.map_eq_some_iff.1 h
  exact names_of_holds (holds_of_nearest found)

theorem ofDigitChars_zeros (digits : List Char) (n : Nat) :
    Nat.ofDigitChars 10 (digits ++ List.replicate n '0') 0 =
      10 ^ n * Nat.ofDigitChars 10 digits 0 := by
  rw [Nat.ofDigitChars_append, Nat.ofDigitChars_replicate_zero]

theorem zeros_replicate (digits : List Char) :
    digits.takeWhile (· == '0') = List.replicate (digits.takeWhile (· == '0')).length '0' := by
  refine List.eq_replicate_iff.2 ⟨rfl, fun c member => ?_⟩
  simpa using List.mem_takeWhile_imp member

theorem eq_trailing_zeros (n : Nat) :
    let zeros := ((Nat.toDigits 10 n).reverse.takeWhile (· == '0')).length
    ∃ rest, n = rest * 10 ^ zeros := by
  intro zeros
  refine ⟨Nat.ofDigitChars 10 ((Nat.toDigits 10 n).reverse.dropWhile (· == '0')).reverse 0, ?_⟩
  have digits : Nat.toDigits 10 n =
      ((Nat.toDigits 10 n).reverse.dropWhile (· == '0')).reverse ++ List.replicate zeros '0' := by
    rw [← List.reverse_replicate, ← zeros_replicate, ← List.reverse_append,
      List.takeWhile_append_dropWhile, List.reverse_reverse]
  calc n = Nat.ofDigitChars 10 (Nat.toDigits 10 n) 0 := Nat.ofDigitChars_ten_toDigits.symm
    _ = _ := by rw [digits, ofDigitChars_zeros, Nat.mul_comm, ← digits]

theorem trim_value (d : Digits) : d.trim.value = d.value := by
  obtain ⟨rest, whole⟩ := eq_trailing_zeros d.digits
  unfold Digits.trim
  simp only [Nat.pow_eq]
  split
  · rfl
  · generalize ((Nat.toDigits 10 d.digits).reverse.takeWhile (· == '0')).length = zeros at whole ⊢
    rw [Digits.value, Digits.value, whole, Nat.mul_div_cancel _ (by positivity),
      zpow_add₀ (by norm_num), zpow_natCast]
    push_cast
    ring

theorem names_shortest (tie : Tie) {b : Binary} (normal : b.Normal) :
    b.Names (shortest tie b).value := by
  unfold shortest
  split
  · rename_i zero
    have closed : b.window.closed = true := by simp [Binary.window, zero]
    have low : b.window.low = 0 := by
      rcases window_low b with ⟨_, low⟩ | ⟨⟨first, _⟩, low⟩ <;> omega
    simp only [Binary.Names, closed, if_true, low, Digits.value]
    refine ⟨by simp, ?_⟩
    simp only [Nat.cast_zero, zero_mul]
    positivity
  · rename_i nonzero
    have top := pow_top_le (Nat.pos_of_ne_zero nonzero)
    simp only
    generalize magnitude _ _ = top' at top ⊢
    have fine : (onGrid tie b (top' - 16)).isSome = true :=
      onGrid_isSome tie normal.mantissa (by rwa [sub_add_cancel])
    have found : (((List.range 17).map fun (n : Nat) => top' - n).findSome? (onGrid tie b)).isSome := by
      rw [List.findSome?_isSome_iff]
      exact ⟨top' - 16, List.mem_map.2 ⟨16, by simp, rfl⟩, fine⟩
    obtain ⟨d, found⟩ := Option.isSome_iff_exists.1 found
    obtain ⟨k, _, onGrid⟩ := List.exists_of_findSome?_eq_some found
    rw [found, Option.getD_some, trim_value]
    exact names_of_onGrid onGrid

end DesignMarkup.Decimal
