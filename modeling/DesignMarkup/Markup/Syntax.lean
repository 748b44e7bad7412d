import DesignMarkup.Element.Basic
import DesignMarkup.Json.Printer
import DesignMarkup.Text.Letter
/-!
The pieces of markup: attribute names, attributes and text. Text that would be read as markup is
written as a string in braces.
-/
namespace DesignMarkup.Markup

def isAttributeStart (c : Char) : Bool := Text.isAlphabetic c || c == '_' || c == '$'

def isAttributePart (c : Char) : Bool :=
  Text.isAlphanumeric c || c == '_' || c == '$' || c == '-'

def isAttributeName (key : String) : Bool :=
  match key.toList with
  | [] => false
  | c :: rest => isAttributeStart c && rest.all isAttributePart

def braced (text : String) : String := "\x7b" ++ text ++ "\x7d"

def needsBraces (marks : List Char) (text : String) : Bool := text.toList.any marks.contains

def stringAttribute (key value : String) : String :=
  if needsBraces ['"', '\\', '\x7b', '\x7d', '\n'] value then
    key ++ "=" ++ braced (Json.quote value)
  else key ++ "=\"" ++ value ++ "\""

def dataAttribute (key : String) : Json → String
  | .string s => stringAttribute key s
  | .bool true => key
  | value => key ++ "=" ++ braced value.compact

def textContent (text : String) : String :=
  if needsBraces ['\x7b', '\x7d', '<', '>', '\n'] text then braced (Json.quote text) else text

def indent (depth : Nat) : String := String.ofList (List.replicate (2 * depth) ' ')

def openTag (tag : String) (attributes : List String) : String :=
  "<" ++ tag ++ String.join (attributes.map (" " ++ ·))

def closeTag (tag : String) : String := "</" ++ tag ++ ">"

/-- The common attributes; the address of an asset is its source unless another one is set. -/
def commonAttributes (a : Attributes) (asset : Option String) : List String :=
  (a.className.map (stringAttribute "className")).toList ++
    ((a.src.or asset).map (stringAttribute "src")).toList ++
    (a.alt.map (stringAttribute "alt")).toList

end DesignMarkup.Markup
