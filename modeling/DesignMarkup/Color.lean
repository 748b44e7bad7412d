import DesignMarkup.Decimal.Layout
import DesignMarkup.Text.Unprintable
/-!
Colours with channels from 0 to 1, and their CSS text.
-/
namespace DesignMarkup

structure Color where
  r : Float
  g : Float
  b : Float
  a : Float

namespace Color

def clamp (x : Float) : Float := if x < 0.0 then 0.0 else if 1.0 < x then 1.0 else x

/-- In single precision; adding 2^23 rounds to a whole number, a half to the even one. -/
def byte (x : Float) : Nat :=
  let rounded := (clamp x).toFloat32 * 255.0 + 8388608.0
  (rounded - 8388608.0).toUInt8.toNat

def hexByte (n : Nat) : String :=
  String.ofList (if n < 16 then '0' :: Text.lowerHex n else Text.lowerHex n)

def hex (c : Color) : String :=
  "#" ++ hexByte (byte c.r) ++ hexByte (byte c.g) ++ hexByte (byte c.b)

def css (c : Color) (opacity : Option Float) : String :=
  let alpha := clamp (c.a * opacity.getD 1.0)
  if 1.0 ≤ alpha then c.hex
  else "rgba(" ++ ", ".intercalate
    [toString (byte c.r), toString (byte c.g), toString (byte c.b), Decimal.measureText alpha] ++
    ")"

end Color
end DesignMarkup
