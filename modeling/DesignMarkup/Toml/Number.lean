import DesignMarkup.Decimal.Reader
import DesignMarkup.Json.Basic
import DesignMarkup.Json.Reader
import DesignMarkup.Toml.Fault
/-!
Numbers in TOML, as far as they go from the front of the text. An integer has no idle zeros in front
and fits in 64 bits; a float has a point with digits on both sides, an exponent, or both.
-/
namespace DesignMarkup.Toml

def cutSign : List Char → Bool × List Char
  | '-' :: s => (true, s)
  | '+' :: s => (false, s)
  | s => (false, s)

def signed (below : Bool) (n : Nat) : Int := if below then -n else n

def moreDigits (isDigit : Char → Bool) : List Char → Reading (List Char × List Char)
  | [] => .ok ([], [])
  | ['_'] => fail [] none ["digit"]
  | '_' :: c :: s =>
    if isDigit c then do
      let (digits, rest) ← moreDigits isDigit s
      return (c :: digits, rest)
    else fail (c :: s) none ["digit"]
  | c :: s =>
    if isDigit c then do
      let (digits, rest) ← moreDigits isDigit s
      return (c :: digits, rest)
    else .ok ([], c :: s)

def digitRun (isDigit : Char → Bool) : List Char → Reading (List Char × List Char)
  | [] => .tentative (fail [] none)
  | c :: s =>
    if isDigit c then do
      let (digits, rest) ← moreDigits isDigit s
      return (c :: digits, rest)
    else .tentative (fail (c :: s) none)

def decimal (s : List Char) : Reading ((Bool × List Char) × List Char) :=
  .within "integer" <|
    let (below, body) := cutSign s
    match body with
    | '0' :: rest => .ok ((below, ['0']), rest)
    | _ => do
      let (digits, rest) ← digitRun Char.isDigit body
      return ((below, digits), rest)

def within64 (s : List Char) (n : Int) : Reading Int :=
  if fitsSigned 64 n then .ok n
  else refuse s ("number too " ++ (if n < 0 then "small" else "large") ++ " to fit in target type")

def based (s : List Char) (radix : Nat) (name : String) (body : List Char) :
    Reading (Int × List Char) := do
  let isDigit (c : Char) : Bool := (Text.hexDigit? c).any (· < radix)
  let (digits, rest) ← (digitRun isDigit body).within (name ++ " integer") |>.final
  let n := digits.foldl (fun n c => n * radix + (Text.hexDigit? c).getD 0) 0
  return (← within64 s n, rest)

def integer (s : List Char) : Reading (Int × List Char) :=
  match s with
  | '0' :: 'x' :: body => based s 16 "hexadecimal" body
  | '0' :: 'o' :: body => based s 8 "octal" body
  | '0' :: 'b' :: body => based s 2 "binary" body
  | _ => do
    let ((below, digits), rest) ← decimal s
    return (← within64 s (signed below (Decimal.digitsValue digits)), rest)

def isExponentMark (c : Char) : Bool := c == 'e' || c == 'E'

def exponent? (s : List Char) : Reading (Option (Int × List Char)) :=
  match s with
  | [] => .ok none
  | c :: s =>
    if isExponentMark c then do
      let (below, body) := cutSign s
      let (digits, rest) ← (digitRun Char.isDigit body).final
      return some (signed below (Decimal.digitsValue digits), rest)
    else .ok none

def fraction (s : List Char) : Reading ((List Char × Int) × List Char) :=
  match s with
  | '.' :: body => do
    let (digits, rest) ← (digitRun Char.isDigit body).expecting ["digit"] |>.final
    match ← exponent? rest with
    | some (e, rest) => return ((digits, e), rest)
    | none => return ((digits, 0), rest)
  | _ => do
    match ← exponent? s with
    | some (e, rest) => return (([], e), rest)
    | none => .tentative (fail s none)

def special? (s : List Char) : Option (Float × List Char) :=
  let (below, body) := cutSign s
  let value (x : Float) : Option (Float × List Char) :=
    some (if below then -x else x, body.drop 3)
  if ['i', 'n', 'f'].isPrefixOf body then value (1.0 / 0.0)
  else if ['n', 'a', 'n'].isPrefixOf body then value (0.0 / 0.0)
  else none

/-- A number that is too large is refused; one that is too small is not. -/
def float (s : List Char) : Reading (Float × List Char) :=
  match special? s with
  | some result => .ok result
  | none => .within "floating-point number" <| do
    let some ((below, whole), rest) ← (decimal s).optional | .tentative (fail s none)
    let ((digits, e), rest) ← fraction rest
    let x := Decimal.nearestFloat (whole ++ digits) (e - digits.length)
    if !below && x == 1.0 / 0.0 then fail s none
    else return (if below then -x else x, rest)

def number (s : List Char) : Reading (Json × List Char) := do
  match ← (float s).optional with
  | some (x, rest) => return (.float x, rest)
  | none =>
    let (n, rest) ← integer s
    return (.int n, rest)

end DesignMarkup.Toml
