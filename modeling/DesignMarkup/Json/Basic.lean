import DesignMarkup.Dict
/-!
JSON values. A number keeps its kind: a whole number in 64 bits, or a floating-point number. Objects
are lists of entries; those that were read are in ascending key order.
-/
namespace DesignMarkup

inductive Json where
  | null
  | bool (value : Bool)
  | int (value : Int)
  | float (value : Float)
  | string (value : String)
  | array (items : List Json)
  | object (entries : List (String × Json))
deriving Inhabited

def wordCount (bits : Nat) : Nat := Nat.pow 2 bits

def fitsUnsigned (bits : Nat) (n : Int) : Bool := 0 ≤ n && n < wordCount bits

def fitsSigned (bits : Nat) (n : Int) : Bool :=
  -(wordCount (bits - 1) : Int) ≤ n && n < wordCount (bits - 1)

namespace Json

def get? : Json → String → Option Json
  | .object entries, key => Dict.get? entries key
  | _, _ => none

def asString? : Json → Option String
  | .string s => some s
  | _ => none

def asBool? : Json → Option Bool
  | .bool b => some b
  | _ => none

/-- Infinities have no number in JSON. -/
def number (x : Float) : Json := if x.isFinite then .float x else .null

def whole (n : Nat) : Json := .int n

def strings (items : List String) : Json := .array (items.map .string)

def entry? (key : String) (value : Option Json) : List (String × Json) :=
  match value with
  | some v => [(key, v)]
  | none => []

mutual

/-- One more than the deepest nesting of arrays and objects. -/
def height : Json → Nat
  | .array items => heightOfItems items + 1
  | .object entries => heightOfEntries entries + 1
  | _ => 1

def heightOfItems : List Json → Nat
  | [] => 0
  | v :: rest => max (height v) (heightOfItems rest)

def heightOfEntries : List (String × Json) → Nat
  | [] => 0
  | (_, v) :: rest => max (height v) (heightOfEntries rest)

end

end Json
end DesignMarkup
