import DesignMarkup.Json.Reader
import DesignMarkup.Json.Refusal
import DesignMarkup.Toml.Fault
/-!
Blanks, comments and the four forms of strings in TOML. A reader works on the rest of the text.
-/
namespace DesignMarkup.Toml

def isControl (c : Char) : Bool := (c.toNat < 32 && c != '\t') || c.toNat == 127

def isBlank (c : Char) : Bool := c == ' ' || c == '\t'

def skipBlank (s : List Char) : List Char := s.dropWhile isBlank

def afterNewline? : List Char → Option (List Char)
  | '\n' :: s => some s
  | '\r' :: '\n' :: s => some s
  | _ => none

def skipComment (s : List Char) : List Char :=
  match skipBlank s with
  | '#' :: rest => rest.dropWhile (!isControl ·)
  | rest => rest

def skipLinesWithin (skip : List Char → List Char) : (fuel : Nat) → List Char → List Char
  | 0, s => s
  | n + 1, s =>
    let rest := skip s
    match afterNewline? rest with
    | some next => skipLinesWithin skip n next
    | none => rest

def skipLines (s : List Char) : List Char := skipLinesWithin skipComment (s.length + 1) s

def skipEmptyLines (s : List Char) : List Char := skipLinesWithin skipBlank (s.length + 1) s

def outOfRange : String := "value is out of range"

def hexEscape (width : Nat) (s : List Char) : Reading (Char × List Char) :=
  .within ("unicode " ++ toString width ++ "-digit hex code") <|
    match (s.take width).mapM Text.hexDigit? with
    | some values =>
      let n := values.foldl (fun n d => n * 16 + d) 0
      if values.length ≠ width then fail s none
      else if n.isValidChar then .ok (Char.ofNat n, s.drop width)
      else refuse s outOfRange
    | none => fail s none

def escapeMarks : List (Char × Char) :=
  [('b', '\x08'), ('f', '\x0c'), ('n', '\n'), ('r', '\r'), ('t', '\t'), ('u', 'u'), ('U', 'U'),
    ('\\', '\\'), ('"', '"')]

def escape : List Char → Reading (Char × List Char)
  | [] => fail [] none
  | 'u' :: s => hexEscape 4 s
  | 'U' :: s => hexEscape 8 s
  | c :: s =>
    match escapeMarks.lookup c with
    | some d => .ok (d, s)
    | none => fail s "escape sequence" (escapeMarks.map fun mark => Json.ticked mark.1.toString)

/-- The rest of a string on one line. A literal string knows no escapes. -/
def lineString (isLiteral : Bool) : (fuel : Nat) → List Char → List Char →
    Reading (String × List Char)
  | 0, _, s => fail s none
  | _ + 1, _, [] => fail [] none
  | n + 1, read, c :: s =>
    if c = (if isLiteral then '\'' else '"') then .ok (String.ofList read.reverse, s)
    else if c = '\\' && !isLiteral && !s.isEmpty then do
      let (d, rest) ← escape s
      lineString isLiteral n (d :: read) rest
    else if isControl c || (c = '\\' && !isLiteral) then fail (c :: s) none
    else lineString isLiteral n (c :: read) s

def joinedLine? (s : List Char) : Option (List Char) :=
  (afterNewline? (skipBlank s)).map skipEmptyLines

/-- The rest of a string over several lines; up to two quotes may stand before the last three. -/
def linesString (isLiteral : Bool) : (fuel : Nat) → List Char → List Char →
    Reading (String × List Char)
  | 0, _, s => fail s none
  | _ + 1, _, [] => fail [] none
  | n + 1, read, c :: s =>
    let quote := if isLiteral then '\'' else '"'
    let quotes := min 5 ((c :: s).takeWhile (· == quote)).length
    let rest := (c :: s).drop quotes
    if 3 ≤ quotes then
      .ok (String.ofList (read.reverse ++ List.replicate (quotes - 3) quote), rest)
    else if rest.isEmpty && quotes ≠ 0 then fail (c :: s) none
    else
      match afterNewline? (c :: s) with
      | some next => linesString isLiteral n ('\n' :: read) next
      | none =>
        if c = '\\' && !isLiteral && !s.isEmpty then
          match joinedLine? s with
          | some next => linesString isLiteral n read next
          | none => do
            let (d, next) ← escape s
            linesString isLiteral n (d :: read) next
        else if isControl c || (c = '\\' && !isLiteral) then fail (c :: s) none
        else linesString isLiteral n (c :: read) s

def stringKind (isLiteral : Bool) : String := if isLiteral then "literal string" else "basic string"

def oneLine (isLiteral : Bool) (s : List Char) : Reading (String × List Char) :=
  .within (stringKind isLiteral) (lineString isLiteral (s.length + 1) [] s)

def quoted (isLiteral : Bool) (s : List Char) : Reading (String × List Char) :=
  let quote := if isLiteral then '\'' else '"'
  if [quote, quote].isPrefixOf s then
    let body := s.drop 2
    .within ("multiline " ++ stringKind isLiteral)
      (linesString isLiteral (body.length + 1) [] ((afterNewline? body).getD body))
  else oneLine isLiteral s

end DesignMarkup.Toml
