import DesignMarkup.Json.Reader
import DesignMarkup.Yaml.Cursor
/-!
The three ways to write a scalar: plain, quoted, and as a block of lines. `margin` is the least
column of content that belongs to the innermost block, and `start` the place where the scalar
starts.
-/
namespace DesignMarkup.Yaml

def isFlowMark (c : Char) : Bool := [',', '[', ']', '\x7b', '\x7d'].contains c

def atMisplacedColon (inFlow : Bool) : List Char → Bool
  | ':' :: c :: _ => inFlow && (isFlowMark c || c == '?')
  | _ => false

/-- Before this a plain scalar ends: a colon that makes it a key, or a mark of its collection. -/
def endsPlain (inFlow : Bool) : List Char → Bool
  | [] => true
  | c :: s =>
    (c == ':' && atGap s) || (inFlow && isFlowMark c) || isGap c ||
      atMisplacedColon inFlow (c :: s)

def plainWord (inFlow : Bool) : List Char → List Char
  | [] => []
  | c :: s => if endsPlain inFlow (c :: s) then [] else c :: plainWord inFlow s

/-- A scalar with the place behind it, and whether a line end was passed after its last word. -/
structure ScalarText where
  text : String
  after : Cursor
  endsLine : Bool

/-- What was read so far is reversed; the gap counts only if another word follows it. -/
def plainFrom (inFlow : Bool) (margin : Nat) (start : Mark) :
    (fuel : Nat) → List Char → Gap → Reading ScalarText
  | 0, _, gap => gap.after.refuse .textEnd .plainScalar start
  | n + 1, read, gap =>
    let c := gap.after
    let ended : ScalarText := ⟨String.ofList read.reverse, c, !gap.breaks.isEmpty⟩
    let isOutside := !inFlow && !gap.breaks.isEmpty && c.column < margin
    let word := plainWord inFlow c.rest
    let d := c.skip word.length
    let next := d.gap margin
    if startsWithAny c.rest ['\t'] then c.refuse .tabInPlain .plainScalar start
    else if isOutside || c.atDocumentMark || startsWithAny c.rest ['#'] then .ok ended
    else if atMisplacedColon inFlow d.rest then d.refuse .misplacedColon .plainScalar start
    else if word.isEmpty then .ok ended
    else plainFrom inFlow margin start n (word.reverse ++ gap.text.reverse ++ read) next

def plainScalar (inFlow : Bool) (margin : Nat) (c : Cursor) : Reading ScalarText :=
  plainFrom inFlow margin c.toMark (c.rest.length + 2) [] ⟨[], [], c⟩

def escapedChars : List (Char × Char) :=
  [('0', '\x00'), ('a', '\x07'), ('b', '\x08'), ('t', '\t'), ('\t', '\t'), ('n', '\n'),
    ('v', '\x0b'), ('f', '\x0c'), ('r', '\r'), ('e', '\x1b'), (' ', ' '), ('"', '"'), ('/', '/'),
    ('\\', '\\'), ('N', '\u0085'), ('_', '\u00a0'), ('L', '\u2028'), ('P', '\u2029')]

def escapeWidths : List (Char × Nat) := [('x', 2), ('u', 4), ('U', 8)]

def escape (c : Cursor) (start : Mark) : Reading (Char × Cursor) :=
  match c.rest with
  | _ :: letter :: s =>
    let d := c.skip 2
    match escapedChars.lookup letter, escapeWidths.lookup letter with
    | some e, _ => .ok (e, d)
    | none, some width =>
      match (s.take width).mapM Text.hexDigit? with
      | some values =>
        let n := values.foldl (fun n v => n * 16 + v) 0
        if values.length < width then d.refuse .noHexDigit .quotedEscape start
        else if n.isValidChar then .ok (Char.ofNat n, d.skip width)
        else d.refuse .badCode .quotedEscape start
      | none => d.refuse .noHexDigit .quotedEscape start
    | none, none => c.refuse .unknownEscape .quotedEscape start
  | _ => c.refuse .unknownEscape .quotedEscape start

/-- What follows an opening quote. A doubled single quote stands for one; between double quotes an
escaped line end joins its lines without a space. -/
def quotedFrom (quote : Char) (start : Mark) :
    (fuel : Nat) → List Char → Cursor → Reading ScalarText
  | 0, _, c => c.refuse .textEnd .quotedScalar start
  | n + 1, read, c =>
    match c.rest with
    | [] => c.refuse .textEnd .quotedScalar start
    | d :: s =>
      if c.atDocumentMark then c.refuse .documentMark .quotedScalar start
      else if isGap d then
        let gap := c.gap 0
        quotedFrom quote start n (gap.text.reverse ++ read) gap.after
      else if d = quote then
        if quote = '\'' ∧ s.head? = some '\'' then
          quotedFrom quote start n ('\'' :: read) (c.skip 2)
        else .ok ⟨String.ofList read.reverse, c.skip 1, false⟩
      else if quote = '"' ∧ d = '\\' then
        if s.head?.any isBreak then
          let gap := (c.skip 1).nextLine.gap 0
          quotedFrom quote start n (gap.breaks.reverse ++ read) gap.after
        else do
          let (e, after) ← escape c start
          quotedFrom quote start n (e :: read) after
      else quotedFrom quote start n (d :: read) (c.skip 1)

def quotedScalar (quote : Char) (c : Cursor) : Reading ScalarText :=
  quotedFrom quote c.toMark (c.rest.length + 1) [] (c.skip 1)

inductive Chomp where
  | one
  | none
  | all
deriving DecidableEq

def chompMark (c : Cursor) : Option Chomp × Cursor :=
  match c.rest with
  | '-' :: _ => (some .none, c.skip 1)
  | '+' :: _ => (some .all, c.skip 1)
  | _ => (none, c)

def indentMark (c : Cursor) (start : Mark) : Reading (Nat × Cursor) :=
  match c.rest with
  | '0' :: _ => c.refuse .zeroIndent .blockScalar start
  | d :: _ => if d.isDigit then .ok (Json.digitValue d, c.skip 1) else .ok (0, c)
  | [] => .ok (0, c)

def blockHeader (c : Cursor) (start : Mark) : Reading (Chomp × Nat × Cursor) := do
  match chompMark c with
  | (some chomp, d) => return (chomp, ← indentMark d start)
  | (none, d) =>
    let (indent, e) ← indentMark d start
    let (chomp, after) := chompMark e
    return (chomp.getD .one, indent, after)

structure BlockGap where
  deepest : Nat
  breaks : List Char
  after : Cursor

/-- As long as the indent is not known (zero) all spaces belong to it; there no tab may stand. -/
def blockGapFrom (start : Mark) (indent deepest : Nat) (breaks : List Char) (line column : Nat) :
    List Char → Reading BlockGap
  | [] => .ok ⟨max deepest column, breaks.reverse, ⟨⟨line, column⟩, []⟩⟩
  | c :: s =>
    let here : Cursor := ⟨⟨line, column⟩, c :: s⟩
    let isInside : Bool := indent == 0 || column < indent
    if c == ' ' && isInside then blockGapFrom start indent deepest breaks line (column + 1) s
    else if c == '\t' && isInside then here.refuse .tabInBlock .blockScalar start
    else if isBreak c then
      blockGapFrom start indent (max deepest column) (c :: breaks) (line + 1) 0 s
    else .ok ⟨max deepest column, breaks.reverse, here⟩

def Cursor.blockGap (c : Cursor) (start : Mark) (indent : Nat) : Reading BlockGap :=
  blockGapFrom start indent 0 [] c.line c.column c.rest

/-- A block as far as it was read: the line end of its last line and the empty lines after it are
kept apart. -/
structure BlockText where
  read : List Char
  lineEnd : List Char
  trailing : List Char
  afterBlank : Bool

/-- When lines are folded, the end of a line becomes a space unless a blank starts one of the two
lines that it separates. -/
def BlockText.joined (b : BlockText) (folded startsBlank : Bool) : List Char :=
  if folded && b.lineEnd == ['\n'] && !b.afterBlank && !startsBlank then
    if b.trailing.isEmpty then [' '] else b.trailing
  else b.lineEnd ++ b.trailing

def BlockText.chomped (b : BlockText) : Chomp → List Char
  | .none => b.read.reverse
  | .one => b.read.reverse ++ b.lineEnd
  | .all => b.read.reverse ++ b.lineEnd ++ b.trailing

def blockLines (start : Mark) (folded : Bool) (indent : Nat) :
    (fuel : Nat) → BlockText → Cursor → Reading (BlockText × Cursor)
  | 0, b, c => .ok (b, c)
  | n + 1, b, c =>
    if c.rest.isEmpty || c.column != indent then .ok (b, c)
    else do
      let startsBlank := startsWithAny c.rest [' ', '\t']
      let line := c.rest.takeWhile (!isBreak ·)
      let lineEnd := c.skip line.length
      let gap ← lineEnd.nextLine.blockGap start indent
      let read := line.reverse ++ (b.joined folded startsBlank).reverse ++ b.read
      let next : BlockText := ⟨read, lineEnd.rest.take 1, gap.breaks, startsBlank⟩
      blockLines start folded indent n next gap.after

def blockScalar (folded : Bool) (margin : Nat) (c : Cursor) : Reading ScalarText := do
  let start := c.toMark
  let (chomp, increment, header) ← blockHeader (c.skip 1) start
  let first ← header.closeLine .blockScalar start
  let declared := if increment = 0 then 0 else margin - 1 + increment
  let gap ← first.blockGap start declared
  let indent := if declared = 0 then max 1 (max margin gap.deepest) else declared
  let empty : BlockText := ⟨[], [], gap.breaks, false⟩
  let (b, after) ← blockLines start folded indent (c.rest.length + 2) empty gap.after
  return ⟨String.ofList (b.chomped chomp), after, true⟩

end DesignMarkup.Yaml
