import DesignMarkup.Url.DomainName
import DesignMarkup.Url.Percent
/-!
Hosts of an address: numeric addresses of both kinds, domain names, and the opaque hosts of schemes
that are not special.
-/
namespace DesignMarkup.Url

inductive Fault where
  | noBase
  | emptyHost
  | badPort
  | badIpv4
  | badIpv6
  | badDomainName
  | badDomainCharacter
deriving DecidableEq, Repr

def Fault.message : Fault → String
  | noBase => "relative URL without a base"
  | emptyHost => "empty host"
  | badPort => "invalid port number"
  | badIpv4 => "invalid IPv4 address"
  | badIpv6 => "invalid IPv6 address"
  | badDomainName => "invalid international domain name"
  | badDomainCharacter => "invalid domain character"

def radixValue (radix : Nat) (s : List Char) : Option Nat :=
  s.foldlM (fun n c => do
    let d ← Text.hexDigit? c
    if d < radix then some (n * radix + d) else none) 0

/-- A part of a numeric address: decimal, octal after `0`, hexadecimal after `0x`. -/
def ipv4Number? : List Char → Option Nat
  | [] => none
  | ['0'] => some 0
  | '0' :: 'x' :: s => radixValue 16 s
  | '0' :: 'X' :: s => radixValue 16 s
  | '0' :: s => radixValue 8 s
  | s => radixValue 10 s

def dottedParts (s : List Char) : List (List Char) :=
  let parts := Text.splitBy (· == '.') s
  if 1 < parts.length ∧ parts.getLast? = some [] then parts.dropLast else parts

def endsInNumber (s : List Char) : Bool :=
  match (dottedParts s).getLast? with
  | none => false
  | some [] => false
  | some part => part.all Char.isDigit || (ipv4Number? part).isSome

/-- The last number fills the bytes that the others leave. -/
def ipv4Value? (s : List Char) : Option Nat := do
  let parts := dottedParts s
  let numbers ← parts.mapM ipv4Number?
  let last ← numbers.getLast?
  let bytes := numbers.dropLast
  let room := Nat.pow 256 (4 - bytes.length)
  if 4 < parts.length ∨ bytes.any (255 < ·) ∨ room ≤ last then none
  else some (bytes.foldl (fun n b => n * 256 + b) 0 * room + last)

def dotted (n : Nat) : String :=
  let byte (place : Nat) : Nat := n / Nat.pow 256 place % 256
  ".".intercalate (([3, 2, 1, 0].map byte).map toString)

def byte? (s : List Char) : Option Nat :=
  match s with
  | ['0'] => some 0
  | '0' :: _ => none
  | _ => do
    let n ← radixValue 10 s
    if s = [] ∨ 255 < n then none else some n

def strictIpv4? (s : List Char) : Option (List Nat) := do
  match ← (Text.splitBy (· == '.') s).mapM byte? with
  | [a, b, c, d] => some [a * 256 + b, c * 256 + d]
  | _ => none

def unit? (s : List Char) : Option Nat :=
  if s = [] ∨ 4 < s.length then none else radixValue 16 s

/-- The last of the units may be a dotted address of two. -/
def units? : List (List Char) → Option (List Nat)
  | [] => some []
  | [s] => if s.contains '.' then strictIpv4? s else (unit? s).map ([·])
  | s :: rest => do return (← unit? s) :: (← units? rest)

def unitsOf (s : List Char) : Option (List Nat) :=
  if s = [] then some [] else units? (Text.splitBy (· == ':') s)

def cutGap : List Char → Option (List Char × List Char)
  | [] => none
  | ':' :: ':' :: s => some ([], s)
  | c :: s => (cutGap s).map fun (a, b) => (c :: a, b)

def ipv6? (s : List Char) : Option (List Nat) := do
  match cutGap s with
  | none =>
    let units ← unitsOf s
    if units.length = 8 then some units else none
  | some (before, after) =>
    let high ← unitsOf before
    let low ← unitsOf after
    if before.contains '.' ∨ 7 < high.length + low.length then none
    else some (high ++ List.replicate (8 - high.length - low.length) 0 ++ low)

def zerosFrom (units : List Nat) (i : Nat) : Nat := ((units.drop i).takeWhile (· == 0)).length

def hexUnits (units : List Nat) : String :=
  ":".intercalate (units.map fun n => String.ofList (Nat.toDigits 16 n))

/-- The first of the longest runs of zeros is left out, if it is longer than one. -/
def ipv6Text (units : List Nat) : String :=
  let longest := (List.range 8).foldl
    (fun best i => if zerosFrom units best < zerosFrom units i then i else best) 0
  let run := zerosFrom units longest
  if run < 2 then hexUnits units
  else hexUnits (units.take longest) ++ "::" ++ hexUnits (units.drop (longest + run))

def bracketed (s : List Char) : Except Fault String :=
  if s.getLast? ≠ some ']' then .error .badIpv6
  else match ipv6? (s.drop 1).dropLast with
    | some units => .ok ("[" ++ ipv6Text units ++ "]")
    | none => .error .badIpv6

def isForbiddenOpaque (c : Char) : Bool :=
  ['\x00', '\t', '\n', '\r', ' ', '#', '/', ':', '<', '>', '?', '@', '[', '\\', ']', '^',
    '|'].contains c

def domain (s : List Char) : Except Fault (List Char) :=
  match (percentDecode s).bind domainName? with
  | some name => .ok name
  | none => .error .badDomainName

def specialHost (s : List Char) : Except Fault String := do
  if s.head? = some '[' then bracketed s
  else
    let name ← domain s
    if name = [] then .error .emptyHost
    else if endsInNumber name then
      match ipv4Value? name with
      | some n => .ok (dotted n)
      | none => .error .badIpv4
    else .ok (String.ofList name)

def opaqueHost (s : List Char) : Except Fault String :=
  if s.head? = some '[' then bracketed s
  else if s.any isForbiddenOpaque then .error .badDomainCharacter
  else .ok (String.ofList (encodeWhere inControls s))

end DesignMarkup.Url
