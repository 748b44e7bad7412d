import DesignMarkup.Text.Normal
import DesignMarkup.Url.Direction
import DesignMarkup.Url.Joining
import DesignMarkup.Url.NameMapping
import DesignMarkup.Url.Punycode
/-!
Domain names with characters beyond ASCII: characters are mapped, the name is normalized and cut at
its dots, labels are checked, and those that need it are written in Punycode behind `xn--`.
-/
namespace DesignMarkup.Url

def isForbidden (c : Char) : Bool :=
  c.toNat ≤ 0x20 || c.toNat == 0x7f ||
    ['#', '%', '/', ':', '<', '>', '?', '@', '[', '\\', ']', '^', '|'].contains c

def isAsciiText (s : List Char) : Bool := s.all fun c => c.toNat < 128

def mapName (s : List Char) : List Char := Text.normalize (s.flatMap mapNameChar)

def isLabel (s : List Char) : Bool :=
  s.all (fun c => !isForbidden c && !refusedRanges.covers c.toNat) &&
    !s.head?.any Text.isMark && joinersFit [] s

/-- A label behind `xn--` has to need that form, and to be mapped to itself. -/
def decodeLabel (s : List Char) : Option (List Char) :=
  if !"xn--".toList.isPrefixOf s then some s
  else if s.getLast? = some '-' ∨ !isAsciiText s then none
  else do
    let t ← Punycode.decode (s.drop 4)
    if isAsciiText t ∨ mapName t ≠ t then none else some t

def encodeLabel (s : List Char) : List Char :=
  if isAsciiText s then s else "xn--".toList ++ Punycode.encode s

def labels? (s : List Char) : Option (List (List Char)) := do
  let labels ← (Text.splitBy (· == '.') (mapName s)).mapM decodeLabel
  let runsBothWays := labels.any fun label => label.any isLeftward
  if labels.all isLabel ∧ (runsBothWays → labels.all keepsDirection) then some labels else none

def domainName? (s : List Char) : Option (List Char) :=
  (labels? s).map fun labels => ['.'].intercalate (labels.map encodeLabel)

end DesignMarkup.Url
