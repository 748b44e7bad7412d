import DesignMarkup.Text.Basic
/-!
Places in a TOML text, and what is wrong at them. A fault is told with an excerpt of the text.
-/
namespace DesignMarkup.Toml

/-- A piece of the text, by the numbers of characters left at its start and after its end. -/
structure Span where
  start : Nat
  stop : Nat
deriving DecidableEq, Repr

def Span.head (rest : List Char) : Span := ⟨rest.length, rest.length - 1⟩

/-- What is wrong at a place: what was being read there, what may stand there, and why else. -/
structure Fault where
  span : Span
  subject : Option String := none
  expected : List String := []
  reason : Option String := none
  /-- Nothing else is tried in place of what was being read. -/
  isFinal : Bool := true
deriving DecidableEq, Repr

abbrev Reading := Except Fault

def fail {α : Type} (rest : List Char) (subject : Option String) (expected : List String := []) :
    Reading α :=
  .error { span := .head rest, subject, expected }

def refuseAt {α : Type} (span : Span) (reason : String) : Reading α :=
  .error { span, reason := some reason }

def refuse {α : Type} (rest : List Char) (reason : String) : Reading α :=
  refuseAt (.head rest) reason

namespace Reading

/-- Nothing of the kind starts here, and something else may. -/
def tentative {α : Type} (r : Reading α) : Reading α :=
  r.mapError fun f => { f with isFinal := false }

def final {α : Type} (r : Reading α) : Reading α := r.mapError fun f => { f with isFinal := true }

/-- Tells a fault as one of a larger thing, unless a smaller one has been named. -/
def within {α : Type} (subject : String) (r : Reading α) : Reading α :=
  r.mapError fun f => { f with subject := f.subject.or (some subject) }

def expecting {α : Type} (expected : List String) (r : Reading α) : Reading α :=
  r.mapError fun f => { f with expected := f.expected ++ expected }

def optional {α : Type} (r : Reading α) : Reading (Option α) :=
  match r with
  | .ok a => .ok (some a)
  | .error f => if f.isFinal then .error f else .ok none

end Reading

def commaList (items : List String) : String := ", ".intercalate items

def Fault.message (f : Fault) : String :=
  let subject := f.subject.map ("invalid " ++ ·)
  let expected := if f.expected.isEmpty then none else some ("expected " ++ commaList f.expected)
  "\n".intercalate (subject.toList ++ expected.toList ++ f.reason.toList)

/-- The number of the line and of the column, both from zero. The end of a text lies one column
behind its last character, and a column that holds a wide character is counted in bytes. -/
def position (before rest : List Char) : Nat × Nat :=
  let place (before : List Char) : Nat × List Char :=
    (before.count '\n', before.reverse.takeWhile (· != '\n'))
  match rest with
  | [] =>
    let (line, inLine) := place before.dropLast
    (line, if before.isEmpty then 0 else inLine.length + 1)
  | c :: _ =>
    let (line, inLine) := place before
    (line, if c.utf8Size = 1 then inLine.length else Text.byteCount inLine)

def Fault.describe (text : List Char) (fault : Fault) : String :=
  let before := text.take (text.length - fault.span.start)
  let rest := text.drop before.length
  let marked := rest.take (fault.span.start - fault.span.stop)
  let (row, column) := position before rest
  let number := toString (row + 1)
  let line := ((Text.splitBy (· == '\n') text)[row]?).getD []
  let width := max 1 (min (Text.byteCount marked) (Text.byteCount line - column))
  let blank (n : Nat) : String := String.ofList (List.replicate n ' ')
  "TOML parse error at line " ++ number ++ ", column " ++ toString (column + 1) ++ "\n" ++
    blank (number.length + 1) ++ "|\n" ++ number ++ " | " ++ String.ofList line ++ "\n" ++
    blank (number.length + 1) ++ "|" ++ blank (column + 1) ++
    String.ofList (List.replicate width '^') ++ "\n" ++ fault.message ++ "\n"

end DesignMarkup.Toml
