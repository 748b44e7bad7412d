import DesignMarkup.Decimal.Shortest
/-!
How the shortest digits of a number are written, and how measures are rounded. `Layout` holds the
choices of a format; the library writes JSON (`jsonLayout`), plain numbers (`plainLayout`) and those
of configuration files (`pointLayout`).
-/
namespace DesignMarkup.Decimal

structure Layout where
  /-- The powers of ten of the first digit that are written without an exponent. -/
  positional : Int → Bool
  /-- A whole number ends in `.0`. -/
  pointZero : Bool
  tie : Tie

/-- Positional from `0.00001` up to, not including, `10000000000000000.0`. -/
def jsonLayout : Layout := ⟨fun e => -5 ≤ e && e < 16, true, .even⟩

/-- Never an exponent and no idle point; a tie goes up. -/
def plainLayout : Layout := ⟨fun _ => true, false, .up⟩

def pointLayout : Layout := { plainLayout with pointZero := true }

def zeros (n : Nat) : String := String.ofList (List.replicate n '0')

def Layout.positionalText (l : Layout) (digits : List Char) (exponent : Int) : String :=
  let point : Int := digits.length + exponent
  if 0 ≤ exponent then
    String.ofList digits ++ zeros exponent.toNat ++ (if l.pointZero then ".0" else "")
  else if 0 < point then
    String.ofList (digits.take point.toNat) ++ "." ++ String.ofList (digits.drop point.toNat)
  else "0." ++ zeros (-point).toNat ++ String.ofList digits

/-- The exponent carries its sign, also a plus. -/
def exponentText (digits : List Char) (power : Int) : String :=
  let fraction := String.ofList (digits.drop 1)
  String.ofList (digits.take 1) ++ (if fraction.isEmpty then "" else "." ++ fraction) ++ "e" ++
    (if power < 0 then "-" else "+") ++ toString power.natAbs

def Layout.magnitudeText (l : Layout) (d : Digits) : String :=
  let digits := Nat.toDigits 10 d.digits
  let power := d.exponent + digits.length - 1
  if l.positional power then l.positionalText digits d.exponent else exponentText digits power

def isNegative (x : Float) : Bool := Nat.pow 2 63 ≤ x.toBits.toNat

/-- Zero keeps its sign. -/
def Layout.write (l : Layout) (x : Float) : String :=
  let sign := if isNegative x && !x.isNaN then "-" else ""
  if x.isNaN then "NaN"
  else if x.isInf then sign ++ "inf"
  else sign ++ l.magnitudeText (shortest l.tie (Binary.ofFloat x))

/-- Two decimals; halves go away from zero. -/
def round2 (x : Float) : Float := (x * 100.0).round / 100.0

def truncate (x : Float) : Float := if x < 0.0 then x.ceil else x.floor

def isWhole (x : Float) : Bool := x - truncate x == 0.0

/-- A measure: two decimals, no idle point, whole numbers held to 64 bits. -/
def measureText (x : Float) : String :=
  let y := round2 x
  if isWhole y then toString y.toInt64.toInt else plainLayout.write y

end DesignMarkup.Decimal
