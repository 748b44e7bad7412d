import DesignMarkup.Toml.Moment
import DesignMarkup.Toml.Number
/-!
The values of TOML that hold no others: strings, numbers, truth values, dates and times.
-/
namespace DesignMarkup.Toml

/-- The only key of the object that a date or a time becomes. -/
def momentKey : String := "$__toml_private_datetime"

def Moment.toJson (m : Moment) : Json := .object [(momentKey, .string m.text)]

def momentOrNumber (s : List Char) : Reading (Json × List Char) := do
  match ← (moment s).optional with
  | some (m, rest) => return (m.toJson, rest)
  | none => number s

/-- A bare word is told as a string that lacks its quotes. -/
def unquoted {α : Type} (s : List Char) : Reading α := fail s "string" ["`\"`", "`'`"]

def truthValue (word : String) (b : Bool) (s : List Char) : Reading (Json × List Char) :=
  if word.toList.isPrefixOf s then .ok (.bool b, s.drop word.length) else unquoted s

def scalar (s : List Char) : Reading (Json × List Char) :=
  match s with
  | [] => .tentative (fail [] none)
  | '"' :: body => do
    let (text, rest) ← quoted false body
    return (.string text, rest)
  | '\'' :: body => do
    let (text, rest) ← quoted true body
    return (.string text, rest)
  | 't' :: _ => truthValue "true" true s
  | 'f' :: _ => truthValue "false" false s
  | '_' :: _ => .expecting ["leading digit"] do
    let (n, rest) ← integer s
    return (.int n, rest)
  | '.' :: _ => .expecting ["leading digit"] do
    let (x, rest) ← float s
    return (.float x, rest)
  | c :: _ =>
    if c.isDigit || c == '+' || c == '-' then momentOrNumber s
    else
      match special? s with
      | some (x, rest) => .ok (.float x, rest)
      | none => .tentative (unquoted s)

end DesignMarkup.Toml
