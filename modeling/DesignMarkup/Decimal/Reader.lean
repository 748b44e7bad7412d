/-!
Reading decimal numbers, rounded to the nearest floating-point number.
-/
namespace DesignMarkup.Decimal

def digitsValue (digits : List Char) : Nat :=
  digits.foldl (fun n d => n * 10 + (d.toNat - '0'.toNat)) 0

/-- `digits * 10 ^ exponent`; far beyond the largest and the smallest number nothing is computed. -/
def nearestFloat (digits : List Char) (exponent : Int) : Float :=
  let n := digitsValue digits
  let size := (digits.dropWhile (· == '0')).length + exponent
  if n = 0 then 0.0
  else if 400 < size then 1.0 / 0.0
  else if size < -400 then 0.0
  else Float.ofScientific n (exponent < 0) exponent.natAbs

def allDigits (s : List Char) : Bool := s.all Char.isDigit

def whole? (digits : List Char) : Option Nat :=
  if digits ≠ [] && allDigits digits then some (digitsValue digits) else none

def exponent? (s : List Char) : Option Int :=
  match s with
  | '+' :: digits => (whole? digits).map Int.ofNat
  | '-' :: digits => (whole? digits).map fun n => -(n : Int)
  | digits => (whole? digits).map Int.ofNat

def readUnsigned (s : List Char) : Option Float :=
  let isMark (c : Char) : Bool := c == 'e' || c == 'E'
  let body := s.takeWhile (!isMark ·)
  let whole := body.takeWhile (· != '.')
  let fraction := (body.dropWhile (· != '.')).drop 1
  let digits := whole ++ fraction
  let power := match s.dropWhile (!isMark ·) with
    | [] => some 0
    | _ :: e => exponent? e
  if digits = [] ∨ !allDigits digits then none
  else power.map fun e => nearestFloat digits (e - fraction.length)

end DesignMarkup.Decimal
