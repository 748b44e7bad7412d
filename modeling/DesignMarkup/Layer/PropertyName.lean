import DesignMarkup.Text.Basic
import DesignMarkup.Text.Case
import DesignMarkup.Text.Letter
/-!
Names of component properties as attribute names: the words before a `#`, joined in camel case.
-/
namespace DesignMarkup

def isWordChar (c : Char) : Bool := Text.isAlphanumeric c || c == '_'

def wordsOf (s : List Char) : List (List Char) :=
  (Text.splitBy (!isWordChar ·) s).filter (!·.isEmpty)

def mapFirst (f : Char → List Char) : List Char → List Char
  | [] => []
  | c :: rest => f c ++ rest

def camelCase : List (List Char) → List Char
  | [] => []
  | first :: rest => mapFirst Text.toLowerCase first ++ rest.flatMap (mapFirst Text.toUpperCase)

/-- Nothing if no name is left, or one that starts with a digit. -/
def attributeName? (property : String) : Option String :=
  match camelCase (wordsOf (property.toList.takeWhile (· != '#'))) with
  | [] => none
  | c :: rest => if Text.isNumeric c then none else some (String.ofList (c :: rest))

end DesignMarkup
