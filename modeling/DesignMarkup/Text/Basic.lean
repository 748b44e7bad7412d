/-!
Sets of characters, and the cutting, finding and replacing of pieces of text.
-/
namespace DesignMarkup.Text

/-- Sets of code points as ascending lists of ranges, both ends included. -/
abbrev Ranges := List (Nat × Nat)

def Ranges.covers : Ranges → Nat → Bool
  | [], _ => false
  | (first, last) :: rest, n => if n < first then false else n ≤ last || Ranges.covers rest n

/-- The Unicode property White_Space. -/
def isBlank (c : Char) : Bool :=
  let n := c.toNat
  (9 ≤ n && n ≤ 13) || n == 32 || n == 0x85 || n == 0xa0 || n == 0x1680 ||
    (0x2000 ≤ n && n ≤ 0x200a) || n == 0x2028 || n == 0x2029 || n == 0x202f || n == 0x205f ||
    n == 0x3000

def trimChars (text : List Char) : List Char :=
  ((text.dropWhile isBlank).reverse.dropWhile isBlank).reverse

def trim (s : String) : String := String.ofList (trimChars s.toList)

def isBlankText (s : String) : Bool := s.toList.all isBlank

def hexDigit? (c : Char) : Option Nat :=
  if c.isDigit then some (c.toNat - '0'.toNat)
  else if 'a' ≤ c ∧ c ≤ 'f' then some (c.toNat - 'a'.toNat + 10)
  else if 'A' ≤ c ∧ c ≤ 'F' then some (c.toNat - 'A'.toNat + 10)
  else none

def byteCount (s : List Char) : Nat := s.foldl (fun n c => n + c.utf8Size) 0

def occurs (pattern : List Char) : List Char → Bool
  | [] => pattern.isEmpty
  | c :: rest => pattern.isPrefixOf (c :: rest) || occurs pattern rest

def mentions (s pattern : String) : Bool := occurs pattern.toList s.toList

/-- `skip` characters of a match are still to be passed over. -/
def replaceFrom (pattern fresh : List Char) : (skip : Nat) → List Char → List Char
  | _, [] => []
  | k + 1, _ :: rest => replaceFrom pattern fresh k rest
  | 0, c :: rest =>
    if pattern.isPrefixOf (c :: rest) then
      fresh ++ replaceFrom pattern fresh (pattern.length - 1) rest
    else c :: replaceFrom pattern fresh 0 rest

/-- Matches are taken from the left and do not overlap; an empty pattern replaces nothing. -/
def replaceAll (s pattern fresh : String) : String :=
  if pattern.isEmpty then s
  else String.ofList (replaceFrom pattern.toList fresh.toList 0 s.toList)

def splitBy (separates : Char → Bool) : List Char → List (List Char)
  | [] => [[]]
  | c :: rest =>
    match separates c, splitBy separates rest with
    | true, pieces => [] :: pieces
    | false, [] => [[c]]
    | false, piece :: pieces => (c :: piece) :: pieces

def split (s : String) (separator : Char) : List String :=
  (splitBy (· == separator) s.toList).map String.ofList

/-- A final line end opens no further line; a carriage return before a line end belongs to it. -/
def lines (text : List Char) : List (List Char) :=
  let pieces := splitBy (· == '\n') text
  let kept := if pieces.getLast? = some [] then pieces.dropLast else pieces
  kept.map fun line => if line.getLast? = some '\r' then line.dropLast else line

def startsWith (s pattern : String) : Bool := pattern.toList.isPrefixOf s.toList

def endsWith (s pattern : String) : Bool := pattern.toList.isSuffixOf s.toList

def dropChars (s : String) (n : Nat) : String := String.ofList (s.toList.drop n)

def splitLast? (s : String) (separator : Char) : Option (String × String) :=
  let reversed := s.toList.reverse
  if s.toList.contains separator then
    some (String.ofList ((reversed.dropWhile (· != separator)).drop 1).reverse,
      String.ofList (reversed.takeWhile (· != separator)).reverse)
  else none

def asciiLower (s : String) : String := String.ofList (s.toList.map Char.toLower)

def slugChar (c : Char) : Char := if c.isAlphanum then c else '-'

def slug (s : String) : String := String.ofList (s.toList.map slugChar)

end DesignMarkup.Text
