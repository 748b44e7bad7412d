import DesignMarkup.Decimal.Layout
import DesignMarkup.Proofs.Decimal.Window
import DesignMarkup.Proofs.Text.Framing
import Mathlib
/-!
The text of a number in JSON stands for its shortest decimal, so no two finite numbers have one text.
-/
namespace DesignMarkup.Decimal
open Text

def powerValue : List Char → Int
  | [] => 0
  | sign :: digits => (if sign = '-' then -1 else 1) * Nat.ofDigitChars 10 digits 0

def textValue (text : List Char) : ℚ :=
  let body := text.takeWhile (· != 'e')
  let fraction := (body.dropWhile (· != '.')).drop 1
  Nat.ofDigitChars 10 (body.takeWhile (· != '.') ++ fraction) 0 *
    10 ^ (powerValue ((text.dropWhile (· != 'e')).drop 1) - fraction.length)

def AllDigits (s : List Char) : Prop := ∀ c ∈ s, c.isDigit = true

theorem AllDigits.append {s t : List Char} (hs : AllDigits s) (ht : AllDigits t) :
    AllDigits (s ++ t) := List.forall_mem_append.2 ⟨hs, ht⟩

theorem allDigits_toDigits (n : Nat) : AllDigits (Nat.toDigits 10 n) := fun _ member =>
  Nat.isDigit_of_mem_toDigits (by decide) (by decide) member

theorem allDigits_zeros (n : Nat) : AllDigits (List.replicate n '0') := fun c member => by
  rw [List.eq_of_mem_replicate member]
  rfl

theorem AllDigits.ne {s : List Char} (h : AllDigits s) {mark : Char} (other : mark.isDigit = false) :
    ∀ c ∈ s, (c != mark) = true := by
  intro c member
  refine bne_iff_ne.2 ?_
  rintro rfl
  rw [h c member] at other
  exact nomatch other

theorem takeWhile_mark {token : List Char} {mark : Char} (inside : ∀ c ∈ token, (c != mark) = true)
    (s : List Char) : (token ++ mark :: s).takeWhile (· != mark) = token ∧
      (token ++ mark :: s).dropWhile (· != mark) = mark :: s :=
  takeWhile_token inside (stops_cons (bne_self_eq_false mark))

theorem textValue_point {whole fraction : List Char} (inWhole : AllDigits whole)
    (inFraction : AllDigits fraction) :
    textValue (whole ++ '.' :: fraction) =
      Nat.ofDigitChars 10 (whole ++ fraction) 0 * 10 ^ (-(fraction.length : ℤ)) := by
  have noExponent : ∀ c ∈ whole ++ '.' :: fraction, (c != 'e') = true :=
    List.forall_mem_append.2 ⟨inWhole.ne rfl, List.forall_mem_cons.2 ⟨rfl, inFraction.ne rfl⟩⟩
  obtain ⟨take, drop⟩ := takeWhile_mark (inWhole.ne (show '.'.isDigit = false by rfl)) fraction
  rw [textValue, List.takeWhile_eq_self_iff.2 noExponent, List.dropWhile_eq_nil_iff.2 noExponent,
    take, drop]
  simp [powerValue]

theorem textValue_exponent {whole fraction : List Char} (inWhole : AllDigits whole)
    (inFraction : AllDigits fraction) (power : List Char) :
    textValue (whole ++ (if fraction = [] then [] else '.' :: fraction) ++ 'e' :: power) =
      Nat.ofDigitChars 10 (whole ++ fraction) 0 * 10 ^ (powerValue power - fraction.length) := by
  have noPoint : ∀ c ∈ whole, (c != '.') = true := inWhole.ne rfl
  by_cases none : fraction = []
  · obtain ⟨take, drop⟩ := takeWhile_mark (inWhole.ne (show 'e'.isDigit = false by rfl)) power
    rw [none, if_pos rfl, List.append_nil, textValue, take, drop,
      List.takeWhile_eq_self_iff.2 noPoint, List.dropWhile_eq_nil_iff.2 noPoint]
    simp
  · have noExponent : ∀ c ∈ whole ++ '.' :: fraction, (c != 'e') = true :=
      List.forall_mem_append.2 ⟨inWhole.ne rfl, List.forall_mem_cons.2 ⟨rfl, inFraction.ne rfl⟩⟩
    obtain ⟨take, drop⟩ := takeWhile_mark noExponent power
    obtain ⟨takeWhole, dropWhole⟩ := takeWhile_mark noPoint fraction
    rw [if_neg none, textValue, take, drop, takeWhole, dropWhole]
    simp

inductive Numeral : List Char → Prop where
  | point {whole fraction : List Char} (nonempty : whole ≠ []) (inWhole : AllDigits whole)
      (inFraction : AllDigits fraction) : Numeral (whole ++ '.' :: fraction)
  | exponent {whole fraction power : List Char} {sign : Char} (nonempty : whole ≠ [])
      (inWhole : AllDigits whole) (inFraction : AllDigits fraction) (isSign : sign = '-' ∨ sign = '+')
      (inPower : AllDigits power) :
      Numeral (whole ++ (if fraction = [] then [] else '.' :: fraction) ++ 'e' :: sign :: power)

def isNumeralChar (c : Char) : Bool := c.isDigit || c == '-' || c == '+' || c == '.' || c == 'e'

theorem AllDigits.numeral {s : List Char} (h : AllDigits s) : ∀ c ∈ s, isNumeralChar c = true := by
  intro c member
  simp [isNumeralChar, h c member]

theorem Numeral.chars {text : List Char} (h : Numeral text) : ∀ c ∈ text, isNumeralChar c = true := by
  cases h with
  | point _ inWhole inFraction =>
    exact List.forall_mem_append.2
      ⟨inWhole.numeral, List.forall_mem_cons.2 ⟨rfl, inFraction.numeral⟩⟩
  | @exponent _ fraction _ sign _ inWhole inFraction isSign inPower =>
    have inMiddle : ∀ c ∈ (if fraction = [] then [] else '.' :: fraction), isNumeralChar c = true := by
      split
      · exact nofun
      · exact List.forall_mem_cons.2 ⟨rfl, inFraction.numeral⟩
    have inSign : isNumeralChar sign = true := by rcases isSign with rfl | rfl <;> rfl
    exact List.forall_mem_append.2 ⟨List.forall_mem_append.2 ⟨inWhole.numeral, inMiddle⟩,
      List.forall_mem_cons.2 ⟨rfl, List.forall_mem_cons.2 ⟨inSign, inPower.numeral⟩⟩⟩

theorem Numeral.marked {text : List Char} (h : Numeral text) : '.' ∈ text ∨ 'e' ∈ text := by
  cases h with
  | point => exact .inl (by simp)
  | exponent => exact .inr (by simp)

theorem Numeral.head {text : List Char} (h : Numeral text) : ∀ c ∈ text.head?, c.isDigit = true := by
  have first {whole : List Char} (nonempty : whole ≠ []) (inWhole : AllDigits whole) (s : List Char) :
      ∀ c ∈ (whole ++ s).head?, c.isDigit = true := by
    obtain ⟨c, rest, rfl⟩ := List.exists_cons_of_ne_nil nonempty
    rintro _ ⟨⟩
    exact inWhole c List.mem_cons_self
  cases h with
  | point nonempty inWhole => exact first nonempty inWhole _
  | exponent nonempty inWhole =>
    rw [List.append_assoc]
    exact first nonempty inWhole _

theorem ofDigitChars_leading_zeros (n : Nat) (digits : List Char) :
    Nat.ofDigitChars 10 (List.replicate n '0' ++ digits) 0 = Nat.ofDigitChars 10 digits 0 := by
  rw [Nat.ofDigitChars_append, Nat.ofDigitChars_replicate_zero, Nat.mul_zero]

theorem wholeText_value {digits : List Char} (inDigits : AllDigits digits) (nonempty : digits ≠ [])
    (n : Nat) : Numeral (digits ++ List.replicate n '0' ++ '.' :: List.replicate 1 '0') ∧
      textValue (digits ++ List.replicate n '0' ++ '.' :: List.replicate 1 '0') =
        Nat.ofDigitChars 10 digits 0 * 10 ^ (n : ℤ) := by
  have inWhole := inDigits.append (allDigits_zeros n)
  refine ⟨.point (by simp [nonempty]) inWhole (allDigits_zeros 1), ?_⟩
  rw [textValue_point inWhole (allDigits_zeros 1), ofDigitChars_zeros, ofDigitChars_zeros,
    List.length_replicate]
  push_cast
  rw [zpow_neg, zpow_natCast]
  norm_num
  ring

theorem splitText_value {digits : List Char} (inDigits : AllDigits digits) {n : Nat} (begun : 0 < n)
    (inside : n < digits.length) : Numeral (digits.take n ++ '.' :: digits.drop n) ∧
      textValue (digits.take n ++ '.' :: digits.drop n) =
        Nat.ofDigitChars 10 digits 0 * 10 ^ ((n : ℤ) - digits.length) := by
  have inWhole : AllDigits (digits.take n) := fun c member => inDigits c (List.mem_of_mem_take member)
  have inFraction : AllDigits (digits.drop n) := fun c member =>
    inDigits c (List.mem_of_mem_drop member)
  have filled : digits.take n ≠ [] := by
    rw [Ne, List.take_eq_nil_iff, ← List.length_eq_zero_iff]
    omega
  refine ⟨.point filled inWhole inFraction, ?_⟩
  rw [textValue_point inWhole inFraction, List.take_append_drop, List.length_drop]
  congr 2
  omega

theorem smallText_value {digits : List Char} (inDigits : AllDigits digits) (n : Nat) :
    Numeral (List.replicate 1 '0' ++ '.' :: (List.replicate n '0' ++ digits)) ∧
      textValue (List.replicate 1 '0' ++ '.' :: (List.replicate n '0' ++ digits)) =
        Nat.ofDigitChars 10 digits 0 * 10 ^ (-(n : ℤ) - digits.length) := by
  have inFraction := (allDigits_zeros n).append inDigits
  refine ⟨.point (by simp) (allDigits_zeros 1) inFraction, ?_⟩
  rw [textValue_point (allDigits_zeros 1) inFraction, ofDigitChars_leading_zeros,
    ofDigitChars_leading_zeros, List.length_append, List.length_replicate]
  congr 2
  omega

theorem positionalText_value {digits : List Char} (inDigits : AllDigits digits) (nonempty : digits ≠ [])
    (exponent : Int) : Numeral (jsonLayout.positionalText digits exponent).toList ∧
      textValue (jsonLayout.positionalText digits exponent).toList =
        Nat.ofDigitChars 10 digits 0 * 10 ^ exponent := by
  unfold Layout.positionalText
  simp only
  split
  · rename_i whole
    obtain ⟨n, rfl⟩ := Int.eq_ofNat_of_zero_le whole
    have text : (String.ofList digits ++ zeros (n : Int).toNat ++
        if jsonLayout.pointZero = true then ".0" else "").toList =
        digits ++ List.replicate n '0' ++ '.' :: List.replicate 1 '0' := by
      simp [zeros, jsonLayout]
    rw [text]
    exact wholeText_value inDigits nonempty n
  · rename_i fractional
    split
    · rename_i inside
      obtain ⟨n, point⟩ := Int.eq_ofNat_of_zero_le inside.le
      obtain rfl : exponent = n - digits.length := by omega
      rw [point, Int.toNat_natCast]
      have text : (String.ofList (digits.take n) ++ "." ++ String.ofList (digits.drop n)).toList =
          digits.take n ++ '.' :: digits.drop n := by
        simp
      rw [text]
      exact splitText_value inDigits (by omega) (by omega)
    · rename_i below
      obtain ⟨n, zerosBefore⟩ := Int.eq_ofNat_of_zero_le (neg_nonneg.2 (not_lt.1 below))
      obtain rfl : exponent = -n - digits.length := by omega
      rw [zerosBefore, Int.toNat_natCast]
      have text : ("0." ++ zeros n ++ String.ofList digits).toList =
          List.replicate 1 '0' ++ '.' :: (List.replicate n '0' ++ digits) := by
        simp [zeros]
      rw [text]
      exact smallText_value inDigits n

theorem exponentText_value {digits : List Char} (inDigits : AllDigits digits) (nonempty : digits ≠ [])
    (power : Int) : Numeral (exponentText digits power).toList ∧
      textValue (exponentText digits power).toList =
        Nat.ofDigitChars 10 digits 0 * 10 ^ (power - digits.length + 1) := by
  have text : (exponentText digits power).toList = digits.take 1 ++
      (if digits.drop 1 = [] then [] else '.' :: digits.drop 1) ++
        'e' :: (if power < 0 then '-' else '+') :: Nat.toDigits 10 power.natAbs := by
    unfold exponentText
    by_cases single : digits.drop 1 = []
    · split <;> simp [List.drop_one ▸ single]
    · split <;> simp [List.drop_one ▸ single]
  have value : powerValue ((if power < 0 then '-' else '+') :: Nat.toDigits 10 power.natAbs) = power := by
    rw [powerValue, Nat.ofDigitChars_ten_toDigits]
    split
    · rw [if_pos rfl]
      omega
    · rw [if_neg (by decide)]
      omega
  have fraction : ((digits.drop 1).length : ℤ) = digits.length - 1 := by
    have := List.length_pos_of_ne_nil nonempty
    rw [List.length_drop]
    omega
  have inWhole : AllDigits (digits.take 1) := fun c member => inDigits c (List.mem_of_mem_take member)
  have inFraction : AllDigits (digits.drop 1) := fun c member => inDigits c (List.mem_of_mem_drop member)
  have isSign : (if power < 0 then '-' else '+') = '-' ∨ (if power < 0 then '-' else '+') = '+' := by
    split <;> simp
  refine ⟨text ▸ .exponent (by simp [nonempty]) inWhole inFraction isSign (allDigits_toDigits _), ?_⟩
  rw [text, textValue_exponent inWhole inFraction, List.take_append_drop, value, fraction]
  congr 2
  ring

theorem magnitudeText_value (d : Digits) : Numeral (jsonLayout.magnitudeText d).toList ∧
    textValue (jsonLayout.magnitudeText d).toList = d.value := by
  unfold Layout.magnitudeText
  simp only
  split
  · obtain ⟨form, value⟩ :=
      positionalText_value (allDigits_toDigits d.digits) Nat.toDigits_ne_nil d.exponent
    exact ⟨form, by rw [value, Nat.ofDigitChars_ten_toDigits, Digits.value]⟩
  · obtain ⟨form, value⟩ := exponentText_value (allDigits_toDigits d.digits) Nat.toDigits_ne_nil
      (d.exponent + (Nat.toDigits 10 d.digits).length - 1)
    refine ⟨form, ?_⟩
    rw [value, Nat.ofDigitChars_ten_toDigits, Digits.value]
    congr 2
    ring

theorem ofFloat_normal (x : Float) : (Binary.ofFloat x).Normal := by
  unfold Binary.ofFloat
  have stored : x.toBits.toNat % Nat.pow 2 63 % hiddenBit < 2 ^ 52 := Nat.mod_lt _ (by decide)
  have hidden : hiddenBit = 2 ^ 52 := rfl
  dsimp only
  split
  · exact ⟨by dsimp only; omega, le_rfl, .inr rfl⟩
  · exact ⟨by dsimp only; omega, by dsimp only; omega, .inl (by dsimp only; omega)⟩

def Binary.bits (b : Binary) : Nat :=
  if b.mantissa < 2 ^ 52 then b.mantissa else (b.exponent + 1074).toNat * 2 ^ 52 + b.mantissa

theorem bits_ofFloat (x : Float) : (Binary.ofFloat x).bits = x.toBits.toNat % 2 ^ 63 := by
  unfold Binary.ofFloat
  have hidden : hiddenBit = 2 ^ 52 := rfl
  have power : Nat.pow 2 63 = 2 ^ 63 := rfl
  dsimp only
  rw [hidden, power]
  have whole := Nat.div_add_mod (x.toBits.toNat % 2 ^ 63) (2 ^ 52)
  have stored : x.toBits.toNat % 2 ^ 63 % 2 ^ 52 < 2 ^ 52 := Nat.mod_lt _ (by decide)
  split
  · rename_i none
    rw [none] at whole
    rw [Binary.bits, if_pos stored]
    dsimp only
    omega
  · rename_i e some
    rw [some] at whole
    rw [Binary.bits, if_neg (by dsimp only; omega)]
    dsimp only
    have exponent : ((e : Int) - 1074 + 1074).toNat = e := by omega
    rw [exponent, Nat.mul_comm, Nat.add_comm (x.toBits.toNat % 2 ^ 63 % 2 ^ 52), ← Nat.add_assoc,
      ← Nat.mul_succ]
    exact whole

theorem eq_of_bits {x y : Float} (same : x.toBits = y.toBits) : x = y := by
  obtain ⟨⟨_, _⟩⟩ := x
  obtain ⟨⟨_, _⟩⟩ := y
  cases same
  rfl

theorem eq_of_ofFloat {x y : Float} (sign : isNegative x = isNegative y)
    (magnitude : Binary.ofFloat x = Binary.ofFloat y) : x = y := by
  refine eq_of_bits (UInt64.toNat_inj.1 ?_)
  have rest : x.toBits.toNat % 2 ^ 63 = y.toBits.toNat % 2 ^ 63 := by
    rw [← bits_ofFloat, magnitude, bits_ofFloat]
  have power : Nat.pow 2 63 = 2 ^ 63 := rfl
  rw [isNegative, isNegative, power, decide_eq_decide] at sign
  have := x.toBits.toNat_lt
  have := y.toBits.toNat_lt
  omega

def signText (negative : Bool) : List Char := if negative then ['-'] else []

theorem write_finite {x : Float} (finite : x.isFinite = true) :
    (jsonLayout.write x).toList = signText (isNegative x) ++
      (jsonLayout.magnitudeText (shortest .even (Binary.ofFloat x))).toList := by
  have other : x.isNaN = false ∧ x.isInf = false := by
    change x.toModel.unpack.isFinite = true at finite
    change x.toModel.unpack.isNaN = false ∧ x.toModel.unpack.isInf = false
    generalize x.toModel.unpack = f at finite
    cases f <;> simp_all [Float.Model.UnpackedFloat.isFinite, Float.Model.UnpackedFloat.isNaN,
      Float.Model.UnpackedFloat.isInf]
  unfold Layout.write
  simp only [other, Bool.false_eq_true, if_false, Bool.not_false, Bool.and_true]
  cases isNegative x <;> simp [signText, jsonLayout]

theorem write_chars {x : Float} (finite : x.isFinite = true) :
    (∀ c ∈ (jsonLayout.write x).toList, isNumeralChar c = true) ∧
      ('.' ∈ (jsonLayout.write x).toList ∨ 'e' ∈ (jsonLayout.write x).toList) := by
  have numeral := (magnitudeText_value (shortest .even (Binary.ofFloat x))).1
  have inSign : ∀ c ∈ signText (isNegative x), isNumeralChar c = true := by
    cases isNegative x <;> simp [signText, isNumeralChar]
  rw [write_finite finite]
  exact ⟨List.forall_mem_append.2 ⟨inSign, numeral.chars⟩,
    numeral.marked.imp (List.mem_append_right _) (List.mem_append_right _)⟩

/-- No two finite numbers have the same text. -/
theorem write_injective {x y : Float} (finiteX : x.isFinite = true) (finiteY : y.isFinite = true)
    (same : jsonLayout.write x = jsonLayout.write y) : x = y := by
  obtain ⟨numeralX, valueX⟩ := magnitudeText_value (shortest .even (Binary.ofFloat x))
  obtain ⟨numeralY, valueY⟩ := magnitudeText_value (shortest .even (Binary.ofFloat y))
  have texts := congrArg String.toList same
  rw [write_finite finiteX, write_finite finiteY] at texts
  have isSign (negative : Bool) : ∀ c ∈ signText negative, (c == '-') = true := by
    cases negative <;> simp [signText]
  have ends {text : List Char} (numeral : Numeral text) : Stops (· == '-') text := fun c first =>
    beq_false_of_ne fun sign => by simpa [sign] using numeral.head c first
  obtain ⟨signTexts, magnitudes⟩ :=
    token_split (isSign _) (isSign _) (ends numeralX) (ends numeralY) texts
  have signs : isNegative x = isNegative y := by
    cases signX : isNegative x <;> cases signY : isNegative y <;> simp_all [signText]
  refine eq_of_ofFloat signs (names_unique (ofFloat_normal x) (ofFloat_normal y)
    (names_shortest .even (ofFloat_normal x)) ?_)
  rw [← valueX, magnitudes, valueY]
  exact names_shortest .even (ofFloat_normal y)

end DesignMarkup.Decimal
