import DesignMarkup.Text.Basic
/-!
Percent-encoding of the parts of an address.
-/
namespace DesignMarkup.Url

def upperHexByte (n : Nat) : List Char :=
  let digits := (Nat.toDigits 16 n).map Char.toUpper
  if n < 16 then '0' :: digits else digits

def utf8 (c : Char) : List Nat := (String.singleton c).toUTF8.toList.map UInt8.toNat

def percentChar (c : Char) : List Char := (utf8 c).flatMap fun b => '%' :: upperHexByte b

def encodeWhere (encoded : Char → Bool) (s : List Char) : List Char :=
  s.flatMap fun c => if encoded c then percentChar c else [c]

def inControls (c : Char) : Bool := c.toNat < 0x20 || 0x7f ≤ c.toNat

def inFragment (c : Char) : Bool := inControls c || [' ', '"', '<', '>', '\x60'].contains c

def inQuery (c : Char) : Bool := inControls c || [' ', '"', '#', '<', '>'].contains c

def inSpecialQuery (c : Char) : Bool := inQuery c || c == '\''

def inPath (c : Char) : Bool := inFragment c || ['#', '?', '\x7b', '\x7d'].contains c

def inUserInfo (c : Char) : Bool :=
  inPath c || ['/', ':', ';', '=', '@', '[', '\\', ']', '^', '|'].contains c

def decodedBytes : List Char → List Nat
  | '%' :: a :: b :: s =>
    match Text.hexDigit? a, Text.hexDigit? b with
    | some x, some y => (16 * x + y) :: decodedBytes s
    | _, _ => utf8 '%' ++ decodedBytes (a :: b :: s)
  | c :: s => utf8 c ++ decodedBytes s
  | [] => []

def percentDecode (s : List Char) : Option (List Char) :=
  (String.fromUTF8? ⟨((decodedBytes s).map Nat.toUInt8).toArray⟩).map String.toList

end DesignMarkup.Url
