import DesignMarkup.Json.Printer
import DesignMarkup.Style.Codec
import DesignMarkup.Text.Basic
/-!
Styles as inline style attributes: an object expression with its properties in key order.
-/
namespace DesignMarkup

def isPlainKey (key : String) : Bool :=
  let isMark (c : Char) : Bool := c == '_' || c == '$'
  match key.toList with
  | [] => false
  | c :: rest => (c.isAlpha || isMark c) && rest.all fun d => d.isAlphanum || isMark d

def objectKey (key : String) : String := if isPlainKey key then key else Json.quote key

def asFloat? : Json → Option Float
  | .int n => some (Float.ofInt n)
  | .float x => some x
  | _ => none

/-- A bare line height would be read as a factor, so it has a unit. -/
def styleValue (key : String) (value : Json) : String :=
  match value, asFloat? value with
  | _, some x =>
    if key = "lineHeight" then Json.quote (Decimal.measureText x ++ "px") else Decimal.measureText x
  | .string s, none => Json.quote s
  | v, none => v.compact

def declarationText (entry : String × Json) : String :=
  objectKey entry.1 ++ ": " ++ styleValue entry.1 entry.2

def Style.inlineAttribute? (s : Style) : Option String :=
  if s.isEmpty then none
  else
    some ("style=\x7b\x7b " ++ ", ".intercalate (s.declarations.map declarationText) ++ " \x7d\x7d")

end DesignMarkup
