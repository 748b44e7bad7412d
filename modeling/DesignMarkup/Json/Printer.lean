import DesignMarkup.Decimal.Layout
import DesignMarkup.Json.Basic
import DesignMarkup.Text.Unprintable
/-!
JSON text, on one line (`compact`) or indented by two spaces a level (`pretty`).
-/
namespace DesignMarkup.Json

def escapedChar (c : Char) : List Char :=
  match c with
  | '"' => ['\\', '"']
  | '\\' => ['\\', '\\']
  | '\x08' => ['\\', 'b']
  | '\x0c' => ['\\', 'f']
  | '\n' => ['\\', 'n']
  | '\r' => ['\\', 'r']
  | '\t' => ['\\', 't']
  | _ =>
    if c.toNat < 16 then ['\\', 'u', '0', '0', '0'] ++ Text.lowerHex c.toNat
    else if c.toNat < 32 then ['\\', 'u', '0', '0'] ++ Text.lowerHex c.toNat
    else [c]

def quoteChars (s : List Char) : List Char := '"' :: s.flatMap escapedChar ++ ['"']

def quote (s : String) : String := String.ofList (quoteChars s.toList)

def floatText (x : Float) : String := if x.isFinite then Decimal.jsonLayout.write x else "null"

mutual

def compactChars : Json → List Char
  | .null => "null".toList
  | .bool b => (if b then "true" else "false").toList
  | .int n => (toString n).toList
  | .float x => (floatText x).toList
  | .string s => quoteChars s.toList
  | .array items => '[' :: compactItems items ++ [']']
  | .object entries => '\x7b' :: compactEntries entries ++ ['\x7d']

def compactItems : List Json → List Char
  | [] => []
  | [v] => compactChars v
  | v :: rest => compactChars v ++ ',' :: compactItems rest

def compactEntries : List (String × Json) → List Char
  | [] => []
  | [(k, v)] => quoteChars k.toList ++ ':' :: compactChars v
  | (k, v) :: rest => quoteChars k.toList ++ ':' :: compactChars v ++ ',' :: compactEntries rest

end

def compact (j : Json) : String := String.ofList (compactChars j)

def newline (depth : Nat) : List Char := '\n' :: List.replicate (2 * depth) ' '

mutual

def prettyChars (depth : Nat) : Json → List Char
  | .array [] => ['[', ']']
  | .array (v :: rest) =>
    '[' :: prettyItems (depth + 1) (v :: rest) ++ newline depth ++ [']']
  | .object [] => ['\x7b', '\x7d']
  | .object (e :: rest) =>
    '\x7b' :: prettyEntries (depth + 1) (e :: rest) ++ newline depth ++ ['\x7d']
  | scalar => compactChars scalar

def prettyItems (depth : Nat) : List Json → List Char
  | [] => []
  | [v] => newline depth ++ prettyChars depth v
  | v :: rest => newline depth ++ prettyChars depth v ++ ',' :: prettyItems depth rest

def prettyEntries (depth : Nat) : List (String × Json) → List Char
  | [] => []
  | [(k, v)] => newline depth ++ quoteChars k.toList ++ ':' :: ' ' :: prettyChars depth v
  | (k, v) :: rest =>
    newline depth ++ quoteChars k.toList ++ ':' :: ' ' :: prettyChars depth v ++
      ',' :: prettyEntries depth rest

end

def pretty (j : Json) : String := String.ofList (prettyChars 0 j)

end DesignMarkup.Json
