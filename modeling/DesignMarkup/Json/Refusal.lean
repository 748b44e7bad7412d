import DesignMarkup.Decimal.Layout
import DesignMarkup.Json.Basic
import DesignMarkup.Text.Unprintable
/-!
Why a JSON value is not read as a record of the library, and where in the value that is.
-/
namespace DesignMarkup.Json

inductive Reason where
  | wrongType (found : Json) (expected : String)
  | wrongValue (found : Json) (expected : String)
  | wrongLength (length : Nat) (expected : String)
  | unknownName (name : String) (known : List String)
  | missing (key : String)
  /-- None of the forms of a value of several forms fits. -/
  | noForm (kind : String)
  | other (text : String)

inductive Place where
  | key (name : String)
  | index (n : Nat)
deriving DecidableEq, Repr

structure Refusal where
  reason : Reason
  path : List Place

def refuse {α : Type} (reason : Reason) : Except Refusal α := .error ⟨reason, []⟩

def Refusal.under {α : Type} (place : Place) : Except Refusal α → Except Refusal α
  | .ok a => .ok a
  | .error e => .error { e with path := place :: e.path }

def describe (layout : Decimal.Layout) : Json → String
  | .null => "null"
  | .bool b => "boolean `" ++ (if b then "true" else "false") ++ "`"
  | .int n => "integer `" ++ toString n ++ "`"
  | .float x => "floating point `" ++ layout.write x ++ "`"
  | .string s => "string " ++ Text.quoted s
  | .array _ => "sequence"
  | .object _ => "map"

def ticked (name : String) : String := "`" ++ name ++ "`"

def expectedNames : List String → String
  | [] => "there are no variants"
  | [a] => "expected " ++ ticked a
  | [a, b] => "expected " ++ ticked a ++ " or " ++ ticked b
  | names => "expected one of " ++ ", ".intercalate (names.map ticked)

def Reason.messageIn (layout : Decimal.Layout) : Reason → String
  | wrongType found expected =>
    "invalid type: " ++ describe layout found ++ ", expected " ++ expected
  | wrongValue found expected =>
    "invalid value: " ++ describe layout found ++ ", expected " ++ expected
  | wrongLength n expected => "invalid length " ++ toString n ++ ", expected " ++ expected
  | unknownName name known => "unknown variant " ++ ticked name ++ ", " ++ expectedNames known
  | missing key => "missing field " ++ ticked key
  | noForm kind => "data did not match any variant of untagged enum " ++ kind
  | other text => text

def Reason.message (r : Reason) : String := r.messageIn Decimal.jsonLayout

def Refusal.message (e : Refusal) : String := e.reason.message

end DesignMarkup.Json
