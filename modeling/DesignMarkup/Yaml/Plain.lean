import DesignMarkup.Decimal.Reader
import DesignMarkup.Json.Reader
import DesignMarkup.Json.Refusal
/-!
What a scalar stands for: a keyword, a number or a text.
-/
namespace DesignMarkup.Yaml

def nullWords : List String := ["null", "Null", "NULL", "~"]

def bool? (s : String) : Option Bool :=
  if s ∈ ["true", "True", "TRUE"] then some true
  else if s ∈ ["false", "False", "FALSE"] then some false
  else none

def base (radix : Nat) (s : List Char) : Option Nat := do
  let digits ← s.mapM Text.hexDigit?
  if digits = [] ∨ digits.any (radix ≤ ·) then none
  else some (digits.foldl (fun n d => n * radix + d) 0)

/-- Digits after an idle zero make no number. -/
def isIdleZero (s : List Char) : Bool :=
  1 < s.length && s.head? == some '0' && Decimal.allDigits s

def naturalNumber (s : List Char) : Option Nat :=
  match s with
  | '0' :: 'x' :: digits => base 16 digits
  | '0' :: 'o' :: digits => base 8 digits
  | '0' :: 'b' :: digits => base 2 digits
  | digits => if isIdleZero digits then none else base 10 digits

def unsigned : List Char → Bool × List Char
  | '-' :: s => (true, s)
  | '+' :: s => (false, s)
  | s => (false, s)

def wholeNumber? (s : List Char) : Option Int := do
  let (negative, digits) := unsigned s
  let n ← naturalNumber digits
  let value : Int := if negative then -n else n
  if fitsSigned 128 value || fitsUnsigned 128 value then some value else none

def anyValue : String := "any valid JSON value"

/-- Whole numbers of more than 64 bits are refused. -/
def wordNumber (n : Int) : Except Json.Reason Json :=
  if fitsSigned 64 n || fitsUnsigned 64 n then .ok (.int n)
  else
    .error (.other ("invalid type: integer `" ++ toString n ++ "` as " ++
      (if n < 0 then "i128" else "u128") ++ ", expected " ++ anyValue))

/-- A number that is not whole; infinities and what is no number have no value. -/
def decimal? (s : List Char) : Option Json :=
  let (negative, digits) := unsigned s
  if String.ofList digits ∈ [".inf", ".Inf", ".INF"] then some .null
  else if String.ofList s ∈ [".nan", ".NaN", ".NAN"] then some .null
  else
    match Decimal.readUnsigned digits with
    | some x => if x.isFinite then some (.float (if negative then -x else x)) else none
    | none => none

def plainValue (text : String) : Except Json.Reason Json :=
  let s := text.toList
  if text.isEmpty ∨ text ∈ nullWords then .ok .null
  else match bool? text with
    | some b => .ok (.bool b)
    | none =>
      match wholeNumber? s with
      | some n => wordNumber n
      | none =>
        if isIdleZero (unsigned s).2 then .ok (.string text)
        else .ok ((decimal? s).getD (.string text))

def isLocalTag (tag : String) : Bool :=
  match tag.toList with
  | '!' :: name => (String.fromUTF8? ⟨(name.map fun c => c.toNat.toUInt8).toArray⟩).isSome
  | _ => false

def localTag : Json.Reason := .other ("invalid type: enum, expected " ++ anyValue)

def orWrong (text expected : String) (v : Option Json) : Except Json.Reason Json :=
  match v with
  | some v => .ok v
  | none => .error (.wrongValue (.string text) expected)

/-- A common tag that names another kind than text has to fit; under any other tag a scalar is a
text. -/
def scalarValue (tag : Option String) (text : String) (isPlain : Bool) : Except Json.Reason Json :=
  match tag with
  | none => if isPlain then plainValue text else .ok (.string text)
  | some "tag:yaml.org,2002:bool" => orWrong text "a boolean" ((bool? text).map .bool)
  | some "tag:yaml.org,2002:int" =>
    match wholeNumber? text.toList with
    | some n => wordNumber n
    | none => orWrong text "an integer" none
  | some "tag:yaml.org,2002:float" => orWrong text "a float" (decimal? text.toList)
  | some "tag:yaml.org,2002:null" =>
    orWrong text "null" (if text ∈ nullWords then some .null else none)
  | some name =>
    if isLocalTag name then .error localTag
    else if name.startsWith "!" && isPlain then plainValue text
    else .ok (.string text)

end DesignMarkup.Yaml
