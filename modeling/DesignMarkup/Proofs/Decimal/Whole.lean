import DesignMarkup.Json.Basic
import Mathlib
/-!
Whole numbers of 64 bits have finite floating-point numbers: rounding raises the exponent by no more
than the bits that a number has.
-/
namespace DesignMarkup

theorem wordCount_cast (bits : Nat) : ((wordCount bits : Nat) : Int) = 2 ^ bits :=
  Int.natCast_pow 2 bits

theorem fitsUnsigned_iff {bits : Nat} {n : Int} :
    fitsUnsigned bits n = true ↔ 0 ≤ n ∧ n < 2 ^ bits := by
  rw [fitsUnsigned, Bool.and_eq_true_iff, decide_eq_true_iff, decide_eq_true_iff, wordCount_cast]

theorem fitsSigned_iff {bits : Nat} {n : Int} :
    fitsSigned bits n = true ↔ -2 ^ (bits - 1) ≤ n ∧ n < 2 ^ (bits - 1) := by
  rw [fitsSigned, Bool.and_eq_true_iff, decide_eq_true_iff, decide_eq_true_iff, wordCount_cast]

end DesignMarkup

open Float.Model UnpackedFloat

namespace DesignMarkup.Decimal

abbrev double : Format := .binary64

def Below (bound : Int) : UnpackedFloat → Prop
  | .zero _ => True
  | .finite _ _ e _ => e ≤ bound
  | _ => False

theorem Below.isFinite {f : UnpackedFloat} {bound : Int} (h : Below bound f) : f.isFinite = true := by
  cases f with
  | zero => rfl
  | finite => rfl
  | infinity => exact h.elim
  | notANumber => exact h.elim

theorem Below.mono {f : UnpackedFloat} {low high : Int} (h : Below low f) (le : low ≤ high) :
    Below high f := by
  cases f with
  | zero => trivial
  | finite => exact Int.le_trans h le
  | infinity => exact h
  | notANumber => exact h

theorem unpackExponent_pack {f : UnpackedFloat} {bound : Int} (high : bound ≤ 971)
    (h : Below bound f) :
    (unpackExponent (UnpackedFloat.pack double f)).toNat ≤ (bound + 1075).toNat := by
  cases f with
  | infinity => exact h.elim
  | notANumber => exact h.elim
  | zero s => simp [UnpackedFloat.pack, packedZero]
  | finite s m e pos =>
    have atMost : e ≤ bound := h
    have biased : (e + double.exponentBias + double.mantissaBitsWithoutImplicit).toNat =
        (e + 1075).toNat := by
      change (e + 1023 + 52).toNat = _
      omega
    rw [UnpackedFloat.pack]
    simp only [biased]
    split
    · rename_i large
      change 2048 ≤ _ at large
      omega
    · split
      · rw [unpackExponent_packComponents, BitVec.toNat_ofNat]
        exact Nat.le_trans (Nat.mod_le _ _) (by omega)
      · rw [unpackExponent_packComponents]
        simp

theorem below_unpack {b : BitVec double.numBits} {bound : Int} (low : -1074 ≤ bound)
    (high : bound ≤ 971) (h : (unpackExponent b).toNat ≤ (bound + 1075).toNat) :
    Below bound (unpack double b) := by
  have notTop : unpackExponent b ≠ -1#11 := by
    intro top
    rw [top] at h
    change 2047 ≤ _ at h
    omega
  have bias : ((double.exponentBias : Nat) : Int) + (double.mantissaBitsWithoutImplicit : Nat) = 1075 := rfl
  simp only [UnpackedFloat.unpack, if_neg notTop, bias]
  split
  · rename_i zero
    split
    · trivial
    · rw [Below, zero]
      change (0 : Int) - 1075 + 1 ≤ bound
      omega
  · rw [Below]
    omega

theorem below_unpack_pack {f : UnpackedFloat} {bound : Int} (low : -1074 ≤ bound)
    (high : bound ≤ 971) (h : Below bound f) :
    Below bound (Float.Model.pack f).unpack :=
  below_unpack low high (unpackExponent_pack high h)

theorem mantissa_unpack {b : BitVec double.numBits} {s : Sign} {m : Nat} {e : Int} {pos : 0 < m}
    (h : unpack double b = .finite s m e pos) : m < 2 ^ 53 := by
  unfold UnpackedFloat.unpack at h
  simp only at h
  split at h
  · split at h <;> simp at h
  · split at h
    · split at h
      · simp at h
      · simp only [UnpackedFloat.finite.injEq] at h
        have := (unpackMantissa b).isLt
        change _ < 2 ^ 52 at this
        omega
    · simp only [UnpackedFloat.finite.injEq] at h
      have := (1#1 ++ unpackMantissa b).isLt
      change _ < 2 ^ 53 at this
      omega

theorem mantissa_shiftRight (em : ExtendedMantissa) (n : Nat) : (em >>> n).mantissa ≤ em.mantissa := by
  induction n with
  | zero => exact Nat.le_refl _
  | succ n ih => exact Nat.le_trans (Nat.div_le_self _ 2) ih

theorem roundedMantissa_le (em : ExtendedMantissa) : em.roundedMantissa ≤ em.mantissa + 1 := by
  unfold ExtendedMantissa.roundedMantissa Accuracy.roundToNearestEven
  split <;> omega

theorem log2_succ_le (m : Nat) : (m + 1).log2 ≤ m.log2 + 1 := by
  have below : m + 1 < 2 ^ (m.log2 + 2) := by
    have := @Nat.lt_log2_self m
    rw [Nat.pow_succ]
    omega
  have := (Nat.log2_lt (by omega)).2 below
  omega

theorem log2_mono {m n : Nat} (h : m ≤ n) : m.log2 ≤ n.log2 := by
  rw [Nat.log2_eq_log_two, Nat.log2_eq_log_two]
  exact Nat.log_mono_right h

/-- Moving to the exponent of 53 bits drops digits and raises the exponent by less than their number. -/
theorem shiftToTarget_le (m : Nat) (e : Int) :
    (shiftToTargetExponent double m e .exact).1.mantissa ≤ m ∧
      (shiftToTargetExponent double m e .exact).2 ≤ max (e + m.log2) (-1074) := by
  refine ⟨mantissa_shiftRight _ _, ?_⟩
  change e + ((max ((m.log2 : Int) + 1 + e - 53) (-1074) - e).toNat : Int) ≤ _
  omega

theorem below_round (s : Sign) (m : Nat) (e : Int) :
    Below (max e (-1074) + 2 * m.log2 + 1) (roundWithAccuracy double s m e .exact) := by
  obtain ⟨mantissa, exponent⟩ := shiftToTarget_le m e
  simp only [roundWithAccuracy]
  generalize shiftToTargetExponent double m e .exact = first at mantissa exponent ⊢
  have rounded : first.1.roundedMantissa.log2 ≤ m.log2 + 1 :=
    Nat.le_trans (log2_mono (Nat.le_trans (roundedMantissa_le _) (Nat.succ_le_succ mantissa)))
      (log2_succ_le m)
  have last := (shiftToTarget_le first.1.roundedMantissa first.2).2
  split
  · trivial
  · rw [Below]
    omega

theorem isFinite_round (s : Sign) {m : Nat} {e : Int} (bits : m.log2 ≤ 200) (low : e ≤ 400) :
    (pack (roundWithAccuracy double s m e .exact)).isFinite = true := by
  have below := below_round s m e
  exact (below_unpack_pack (by omega) (by omega) below).isFinite

theorem log2_lt_of_lt {m k : Nat} (h : m < 2 ^ k) (pos : 0 < k) : m.log2 < k := by
  rcases Nat.eq_zero_or_pos m with rfl | positive
  · simpa using pos
  · exact (Nat.log2_lt (by omega)).2 h

theorem mul_finite {s t : Sign} {m n : Nat} {d e : Int} {mPos : 0 < m} {nPos : 0 < n} :
    UnpackedFloat.mul double (.finite s m d mPos) (.finite t n e nPos) =
      roundWithAccuracy double (s * t) (m * n) (d + e) .exact := rfl

theorem below_ofUInt64 (n : UInt64) : Below 400 (UnpackedFloat.ofUInt64 double n) := by
  change Below 400 (UnpackedFloat.normalize double n.toNat 0 .positive)
  unfold UnpackedFloat.normalize
  split
  · rename_i negative
    exact absurd (Int.compare_eq_lt.1 negative) (by omega)
  · trivial
  · unfold UnpackedFloat.round
    simp only [decreaseExponent, Int.toNat_natCast]
    generalize hasShift : (0 - double.targetExponent (totalExponent n.toNat 0)).toNat = shift
    have short : shift ≤ 53 := by
      rw [← hasShift]
      change (0 - max ((n.toNat.log2 : Int) + 1 + 0 - 53) (-1074)).toNat ≤ 53
      omega
    have bits : (n.toNat <<< shift).log2 < 117 := by
      refine log2_lt_of_lt ?_ (by decide)
      calc n.toNat <<< shift = n.toNat * 2 ^ shift := Nat.shiftLeft_eq ..
        _ ≤ n.toNat * 2 ^ 53 := Nat.mul_le_mul_left _ (Nat.pow_le_pow_right (by decide) short)
        _ < 2 ^ 117 := by have := n.toNat_lt; omega
    have below := below_round .positive (n.toNat <<< shift) (0 - shift)
    exact below.mono (by omega)

theorem isFinite_times_one (n : UInt64) :
    (pack (UnpackedFloat.mul double (Float.Model.ofUInt64 n).unpack
      (Float.Model.ofBits 4607182418800017408).unpack)).isFinite = true := by
  have one : (Float.Model.ofBits 4607182418800017408).unpack =
      .finite .positive (2 ^ 52) (-52) (by decide) := rfl
  have below : Below 400 (Float.Model.ofUInt64 n).unpack :=
    below_unpack_pack (by decide) (by decide) (below_ofUInt64 n)
  rw [one]
  cases number : (Float.Model.ofUInt64 n).unpack with
  | infinity => rw [number] at below; exact below.elim
  | notANumber => rw [number] at below; exact below.elim
  | zero s => cases s <;> rfl
  | finite s m e pos =>
    rw [number] at below
    have small : m < 2 ^ 53 := mantissa_unpack number
    have exponent : e ≤ 400 := below
    rw [mul_finite]
    refine isFinite_round _ (Nat.le_of_lt ?_) (by omega)
    exact log2_lt_of_lt (by omega) (by decide)

theorem ofNat_isFinite {n : Nat} (h : n < 2 ^ 64) : (Float.ofNat n).isFinite = true := by
  change (Float.ofScientific n false 0).isFinite = true
  unfold Float.ofScientific
  split
  · exact isFinite_times_one n.toUInt64
  · change (pack (UnpackedFloat.ofScientific double n 0)).isFinite = true
    unfold UnpackedFloat.ofScientific
    split
    · rfl
    · have wide : (0 : Int) ≤ 2 ^ double.exponentBits := by decide
      rw [if_neg (by decide), if_neg (by omega), if_pos (by decide), mul_finite]
      refine isFinite_round _ (Nat.le_of_lt ?_) (by decide)
      refine log2_lt_of_lt ?_ (by decide)
      rw [Nat.shiftLeft_eq]
      change n * 2 ^ 53 * 1 < 2 ^ 200
      omega

theorem below_of_isFinite {b : BitVec double.numBits} (h : (unpack double b).isFinite = true) :
    Below 971 (unpack double b) := by
  refine below_unpack (by decide) (by decide) ?_
  have notTop : unpackExponent b ≠ -1#11 := by
    intro top
    simp only [UnpackedFloat.unpack, top, if_true] at h
    split at h <;> simp [UnpackedFloat.isFinite] at h
  have other : (unpackExponent b).toNat ≠ 2047 := fun same => notTop (BitVec.eq_of_toNat_eq same)
  have width : (unpackExponent b).toNat < 2048 := (unpackExponent b).isLt
  change _ ≤ 2046
  omega

theorem neg_isFinite {x : Float} (h : x.isFinite = true) : x.neg.isFinite = true := by
  have below : Below 971 x.toModel.unpack.neg := by
    have kept : Below 971 x.toModel.unpack := below_of_isFinite h
    generalize x.toModel.unpack = f at kept
    cases f <;> exact kept
  exact (below_unpack_pack (by decide) (by decide) below).isFinite

/-- An integer of 64 bits, with or without a sign, has a finite floating-point number. -/
theorem ofInt_isFinite {n : Int} (h : fitsSigned 64 n || fitsUnsigned 64 n) :
    (Float.ofInt n).isFinite = true := by
  have bounds : -2 ^ 63 ≤ n ∧ n < 2 ^ 64 := by
    rw [Bool.or_eq_true_iff, fitsSigned_iff, fitsUnsigned_iff] at h
    omega
  cases n with
  | ofNat k => exact ofNat_isFinite (Int.ofNat_lt.1 bounds.2)
  | negSucc k => exact neg_isFinite (ofNat_isFinite (by omega))

end DesignMarkup.Decimal
