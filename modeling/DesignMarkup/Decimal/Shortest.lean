/-!
The shortest decimal that names a binary floating-point number. A finite number is
`mantissa * 2 ^ exponent`; the decimals that read back as it are those of the interval `window`
around it, and `shortest` picks from the coarsest decimal grid with a point in that interval the
point nearest to the number.
-/
namespace DesignMarkup.Decimal

structure Binary where
  mantissa : Nat
  exponent : Int
deriving DecidableEq, Repr

def hiddenBit : Nat := Nat.pow 2 52

/-- The magnitude of a finite number; the sign is not part of it. -/
def Binary.ofFloat (x : Float) : Binary :=
  let bits := x.toBits.toNat % Nat.pow 2 63
  let fraction := bits % hiddenBit
  match bits / hiddenBit with
  | 0 => ⟨fraction, -1074⟩
  | e + 1 => ⟨fraction + hiddenBit, e - 1074⟩

/-- `digits * 10 ^ exponent`. -/
structure Digits where
  digits : Nat
  exponent : Int
deriving DecidableEq, Repr

def digitCount (n : Nat) : Nat := (Nat.toDigits 10 n).length

/-- The power of ten at or below the positive fraction `num / den`. -/
def magnitude (num den : Nat) : Int :=
  let e := (digitCount num : Int) - digitCount den
  if den * Nat.pow 10 e.toNat ≤ num * Nat.pow 10 (-e).toNat then e else e - 1

/-- A number in quarters of its last binary place; what is between the ends rounds to it. -/
structure Window where
  low : Nat
  value : Nat
  high : Nat
  closed : Bool

/-- The gap below a power of two is half the gap above it, except at the smallest normal number. -/
def Binary.window (b : Binary) : Window where
  low := 4 * b.mantissa - (if b.mantissa = hiddenBit ∧ b.exponent ≠ -1074 then 1 else 2)
  value := 4 * b.mantissa
  high := 4 * b.mantissa + 2
  closed := b.mantissa % 2 = 0

/-- The point `c` of a grid whose unit is `den / num` quarters reads back as the number. -/
def Window.holds (w : Window) (num den c : Nat) : Bool :=
  if w.closed then w.low * num ≤ c * den ∧ c * den ≤ w.high * num
  else w.low * num < c * den ∧ c * den < w.high * num

inductive Tie where
  | even
  | up
deriving DecidableEq, Repr

/-- The neighbour of `value * num / den` that is nearer, if both neighbours name the number. -/
def nearest (tie : Tie) (w : Window) (num den : Nat) : Option Nat :=
  let below := w.value * num / den
  let gap := w.value * num % den
  match w.holds num den below, w.holds num den (below + 1) with
  | true, true =>
    if 2 * gap < den then some below
    else if den < 2 * gap then some (below + 1)
    else match tie with
      | .up => some (below + 1)
      | .even => some (if below % 2 = 0 then below else below + 1)
  | true, false => some below
  | false, true => some (below + 1)
  | false, false => none

/-- The grid of step `10 ^ k` against quarters of `2 ^ exponent`, as numerator and denominator. -/
def grid (exponent k : Int) : Nat × Nat :=
  (Nat.pow 2 (exponent - 2).toNat * Nat.pow 10 (-k).toNat,
    Nat.pow 2 (2 - exponent).toNat * Nat.pow 10 k.toNat)

def onGrid (tie : Tie) (b : Binary) (k : Int) : Option Digits :=
  (nearest tie b.window (grid b.exponent k).1 (grid b.exponent k).2).map (⟨·, k⟩)

def Digits.trim (d : Digits) : Digits :=
  let zeros := ((Nat.toDigits 10 d.digits).reverse.takeWhile (· == '0')).length
  if d.digits = 0 then d else ⟨d.digits / Nat.pow 10 zeros, d.exponent + zeros⟩

def shortest (tie : Tie) (b : Binary) : Digits :=
  if b.mantissa = 0 then ⟨0, 0⟩
  else
    let top := magnitude (b.mantissa * Nat.pow 2 b.exponent.toNat) (Nat.pow 2 (-b.exponent).toNat)
    let grids := (List.range 17).map fun (n : Nat) => top - n
    ((grids.findSome? (onGrid tie b)).getD ⟨0, 0⟩).trim

end DesignMarkup.Decimal
