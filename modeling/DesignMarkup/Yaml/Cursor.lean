import DesignMarkup.Yaml.Fault
/-!
A place in a YAML text: what is left of the text, with the line and the column. Gaps between the
words of a scalar are folded here: one line end becomes a space, of several the first is dropped.
-/
namespace DesignMarkup.Yaml

def isAllowed (c : Char) : Bool :=
  let n := c.toNat
  n == 9 || n == 10 || n == 13 || (0x20 ≤ n && n ≤ 0x7e) || n == 0x85 ||
    (0xa0 ≤ n && n ≤ 0xfffd && n != 0xfeff) || 0x10000 ≤ n

/-- Carriage returns, alone or before a line feed, and next-line characters become line feeds. -/
def unifyLineEnds : List Char → List Char
  | [] => []
  | '\r' :: '\n' :: s => '\n' :: unifyLineEnds s
  | c :: s => (if c = '\r' ∨ c = '\u0085' then '\n' else c) :: unifyLineEnds s

def isBlank (c : Char) : Bool := c == ' ' || c == '\t'

def isBreak (c : Char) : Bool := c == '\n' || c == '\u2028' || c == '\u2029'

def isGap (c : Char) : Bool := isBlank c || isBreak c

def atGap : List Char → Bool
  | [] => true
  | c :: _ => isGap c

def startsWithAny (s marks : List Char) : Bool := s.head?.any marks.contains

structure Cursor extends Mark where
  rest : List Char

namespace Cursor

def start (s : List Char) : Cursor := ⟨Mark.start, s⟩

def refuse {α : Type} (c : Cursor) (problem : Problem) (activity : Activity) (start : Mark) :
    Reading α :=
  .error (.malformed problem c.toMark (some (activity, start)))

def skip (c : Cursor) (n : Nat) : Cursor := { c with rest := c.rest.drop n, column := c.column + n }

def skipWhile (c : Cursor) (p : Char → Bool) : Cursor := c.skip (c.rest.takeWhile p).length

def nextLine (c : Cursor) : Cursor :=
  if startsWithAny c.rest ['\n', '\u2028', '\u2029'] then ⟨⟨c.line + 1, 0⟩, c.rest.drop 1⟩ else c

def skipComment (c : Cursor) : Cursor :=
  if c.rest.head? = some '#' then c.skipWhile (!isBreak ·) else c

def closeLine (c : Cursor) (activity : Activity) (start : Mark) : Reading Cursor :=
  let d := (c.skipWhile isBlank).skipComment
  if atGap d.rest then .ok d.nextLine else d.refuse .noLineEnd activity start

def atTriple (c : Cursor) (mark : Char) : Bool :=
  c.column == 0 && [mark, mark, mark].isPrefixOf c.rest && atGap (c.rest.drop 3)

def atDocumentMark (c : Cursor) : Bool := c.atTriple '-' || c.atTriple '.'

end Cursor

/-- Blanks on one line, or line ends with the blanks around them left out. -/
structure Gap where
  blanks : List Char
  breaks : List Char
  after : Cursor

/-- On further lines it ends before a tab that stands left of the column `margin`. -/
def gapFrom (margin : Nat) (blanks breaks : List Char) (line column : Nat) : List Char → Gap
  | [] => ⟨blanks.reverse, breaks.reverse, ⟨⟨line, column⟩, []⟩⟩
  | c :: s =>
    if isBreak c then gapFrom margin [] (c :: breaks) (line + 1) 0 s
    else if !isBlank c || (c == '\t' && !breaks.isEmpty && column < margin) then
      ⟨blanks.reverse, breaks.reverse, ⟨⟨line, column⟩, c :: s⟩⟩
    else if breaks.isEmpty then gapFrom margin (c :: blanks) [] line (column + 1) s
    else gapFrom margin [] breaks line (column + 1) s

def Cursor.gap (c : Cursor) (margin : Nat) : Gap := gapFrom margin [] [] c.line c.column c.rest

def Gap.text (gap : Gap) : List Char :=
  match gap.breaks with
  | [] => gap.blanks
  | ['\n'] => [' ']
  | '\n' :: more => more
  | breaks => breaks

end DesignMarkup.Yaml
