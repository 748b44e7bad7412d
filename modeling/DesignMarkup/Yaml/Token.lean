import DesignMarkup.Text.Basic
import DesignMarkup.Yaml.Property
import DesignMarkup.Yaml.Scalar
/-!
The tokens of a YAML text. The starts and ends of blocks, and the keys that no question mark
announces, are tokens that stand for columns: a key is found out at its colon, and its token is put
in front of what was read since.
-/
namespace DesignMarkup.Yaml

inductive Token where
  | directive (d : Directive)
  | documentStart
  | documentEnd
  | textEnd
  | blockItems
  | blockEntries
  | blockEnd
  | flowItems
  | flowItemsEnd
  | flowEntries
  | flowEntriesEnd
  | dash
  | comma
  | key
  | value
  | reference (name : String)
  | anchor (name : String)
  | tag (name : TagName)
  | scalar (text : String) (isPlain : Bool)
  /-- The text goes on with what is no token. -/
  | broken (fault : Fault)

abbrev Located := Token × Mark

/-- What may turn out to be a key. It has to, if it stands where the next key of a block stands. -/
structure PendingKey where
  required : Bool
  place : Nat
  start : Mark

/-- `margin` is the least column of content of the innermost block, and `margins` holds those of the
blocks around it. `key` may become a key of the innermost flow collection, or of the block outside
of all, and `outerKeys` those of the collections around it. -/
structure Lexer where
  here : Cursor
  margin : Nat
  margins : List Nat
  key : Option PendingKey
  outerKeys : List (Option PendingKey)
  keyAllowed : Bool
  tokens : Array Located
  isOver : Bool

namespace Lexer

def start (s : List Char) : Lexer := ⟨Cursor.start s, 0, [], none, [], true, #[], false⟩

def inFlow (l : Lexer) : Bool := !l.outerKeys.isEmpty

def pushAt (l : Lexer) (c : Cursor) (t : Token) : Lexer :=
  { l with tokens := l.tokens.push (t, c.toMark) }

def push (l : Lexer) (t : Token) : Lexer := l.pushAt l.here t

def misplaced {α : Type} (l : Lexer) (problem : Problem) : Reading α :=
  .error (.malformed problem l.here.toMark none)

/-- A block starts at `start`, if content may stand further left. Its token goes to `place`. -/
def openBlock (l : Lexer) (start : Mark) (place : Nat) (t : Token) : Lexer :=
  if l.inFlow || start.column < l.margin then l
  else { l with
    margin := start.column + 1
    margins := l.margin :: l.margins
    tokens := l.tokens.insertIdxIfInBounds place (t, start) }

def openBlockHere (l : Lexer) (t : Token) : Lexer := l.openBlock l.here.toMark l.tokens.size t

/-- Blocks whose content starts right of `least - 1` end. -/
def closeBlocksFrom (here : Mark) (least : Nat) : (margin : Nat) → List Nat → Array Located →
    Nat × List Nat × Array Located
  | margin, [], tokens => (margin, [], tokens)
  | margin, outer :: margins, tokens =>
    if least < margin then
      closeBlocksFrom here least outer margins (tokens.push (.blockEnd, here))
    else (margin, outer :: margins, tokens)

def closeBlocks (l : Lexer) (least : Nat) : Lexer :=
  if l.inFlow then l
  else
    let (margin, margins, tokens) :=
      closeBlocksFrom l.here.toMark least l.margin l.margins l.tokens
    { l with margin, margins, tokens }

def keptKey (here : Cursor) (drops : PendingKey → Bool) :
    Option PendingKey → Reading (Option PendingKey)
  | none => .ok none
  | some k =>
    if !drops k then .ok (some k)
    else if k.required then here.refuse .noColon .simpleKey k.start
    else .ok none

def dropKey (l : Lexer) : Reading Lexer := do
  return { l with key := ← keptKey l.here (fun _ => true) l.key }

def noteKey (l : Lexer) : Reading Lexer :=
  if l.keyAllowed then do
    let m ← l.dropKey
    let required := !l.inFlow && l.margin == l.here.column + 1
    return { m with key := some ⟨required, l.tokens.size, l.here.toMark⟩ }
  else .ok l

/-- A key stands on one line with its colon, at most 1024 characters before it. -/
def isStale (here : Mark) (k : PendingKey) : Bool :=
  k.start.line < here.line || k.start.column + 1024 < here.column

def dropStaleKeys (l : Lexer) : Reading Lexer := do
  let key ← keptKey l.here (isStale l.here.toMark) l.key
  let outerKeys ← l.outerKeys.mapM (keptKey l.here (isStale l.here.toMark))
  return { l with key, outerKeys }

/-- Passes blanks, comments and line ends. A tab is no blank where a key may stand in a block. -/
def skipGap : (fuel : Nat) → Lexer → Lexer
  | 0, l => l
  | n + 1, l =>
    let tabs := l.inFlow || !l.keyAllowed
    let c := (l.here.skipWhile fun c => c == ' ' || (c == '\t' && tabs)).skipComment
    if c.rest.head?.any isBreak then
      skipGap n { l with here := c.nextLine, keyAllowed := l.keyAllowed || !l.inFlow }
    else { l with here := c }

def pass (l : Lexer) (after : Cursor) (t : Token) (keyAllowed : Bool) : Lexer :=
  { l.push t with here := after, keyAllowed }

def take (l : Lexer) (n : Nat) (t : Token) (keyAllowed : Bool) : Lexer :=
  l.pass (l.here.skip n) t keyAllowed

def finish (l : Lexer) : Reading Lexer := do
  let last : Mark := if l.here.column = 0 then l.here.toMark else ⟨l.here.line + 1, 0⟩
  let m ← ({ l with here := ⟨last, []⟩ }.closeBlocks 0).dropKey
  return { m.push .textEnd with isOver := true }

def readDirective (l : Lexer) : Reading Lexer := do
  let m ← (l.closeBlocks 0).dropKey
  let (d, after) ← directive l.here
  return m.pass after (.directive d) false

def readDocumentMark (l : Lexer) (t : Token) : Reading Lexer := do
  let m ← (l.closeBlocks 0).dropKey
  return m.take 3 t false

def openFlow (l : Lexer) (t : Token) : Reading Lexer := do
  let m ← l.noteKey
  return { m.take 1 t true with outerKeys := m.key :: m.outerKeys, key := none }

def closeFlow (l : Lexer) (t : Token) : Reading Lexer := do
  let m ← l.dropKey
  let closed := m.take 1 t false
  match m.outerKeys with
  | [] => return closed
  | key :: outerKeys => return { closed with key, outerKeys }

def readComma (l : Lexer) : Reading Lexer := do return (← l.dropKey).take 1 .comma true

/-- Opens a block at a mark for an item, a key or a value; within a flow collection there is none.
-/
def markBlock (l : Lexer) (t : Token) (problem : Problem) : Reading Lexer :=
  if l.inFlow then .ok l else if l.keyAllowed then .ok (l.openBlockHere t) else l.misplaced problem

def readDash (l : Lexer) : Reading Lexer := do
  let m ← (← l.markBlock .blockItems .misplacedDash).dropKey
  return m.take 1 .dash true

def readKey (l : Lexer) : Reading Lexer := do
  let m ← (← l.markBlock .blockEntries .misplacedKey).dropKey
  return m.take 1 .key (!l.inFlow)

def readValue (l : Lexer) : Reading Lexer :=
  match l.key with
  | some k =>
    let tokens := l.tokens.insertIdxIfInBounds k.place (.key, k.start)
    let m := { l with tokens, key := none }.openBlock k.start k.place .blockEntries
    .ok (m.take 1 .value false)
  | none => do
    let m ← l.markBlock .blockEntries .misplacedValue
    return m.take 1 .value (!l.inFlow)

def readReference (l : Lexer) : Reading Lexer := do
  let m ← l.noteKey
  let (name, after) ← anchorName .reference l.here
  return m.pass after (.reference name) false

def readAnchor (l : Lexer) : Reading Lexer := do
  let m ← l.noteKey
  let (name, after) ← anchorName .anchor l.here
  return m.pass after (.anchor name) false

def readTag (l : Lexer) : Reading Lexer := do
  let m ← l.noteKey
  let (name, after) ← tagName l.here
  if atGap after.rest || (l.inFlow && startsWithAny after.rest [',']) then
    return m.pass after (.tag name) false
  else after.refuse .noGap .tag l.here.toMark

def readBlockScalar (l : Lexer) (folded : Bool) : Reading Lexer := do
  let m ← l.dropKey
  let s ← blockScalar folded l.margin l.here
  return m.pass s.after (.scalar s.text false) true

def readQuoted (l : Lexer) (quote : Char) : Reading Lexer := do
  let m ← l.noteKey
  let s ← quotedScalar quote l.here
  return m.pass s.after (.scalar s.text false) false

def readPlain (l : Lexer) : Reading Lexer := do
  let m ← l.noteKey
  let s ← plainScalar l.inFlow l.margin l.here
  return m.pass s.after (.scalar s.text true) s.endsLine

/-- Characters that no plain scalar starts with, those aside that may start one before a letter. -/
def isIndicator (c : Char) : Bool :=
  isGap c || "-?:,[]\x7b\x7d#&*!|>'\"%@\x60".toList.contains c

def startsPlain (inFlow : Bool) (c : Char) (s : List Char) : Bool :=
  !isIndicator c || (c == '-' && !startsWithAny s [' ', '\t']) ||
    (!inFlow && (c == '?' || c == ':') && !atGap s)

def readToken (l : Lexer) (c : Char) (s : List Char) : Reading Lexer :=
  let marks := l.inFlow || atGap s
  if l.here.column = 0 ∧ c = '%' then l.readDirective
  else if l.here.atTriple '-' then l.readDocumentMark .documentStart
  else if l.here.atTriple '.' then l.readDocumentMark .documentEnd
  else if c = '[' then l.openFlow .flowItems
  else if c = '\x7b' then l.openFlow .flowEntries
  else if c = ']' then l.closeFlow .flowItemsEnd
  else if c = '\x7d' then l.closeFlow .flowEntriesEnd
  else if c = ',' then l.readComma
  else if c = '-' ∧ atGap s then l.readDash
  else if c = '?' ∧ marks then l.readKey
  else if c = ':' ∧ marks then l.readValue
  else if c = '*' then l.readReference
  else if c = '&' then l.readAnchor
  else if c = '!' then l.readTag
  else if c = '|' ∧ !l.inFlow then l.readBlockScalar false
  else if c = '>' ∧ !l.inFlow then l.readBlockScalar true
  else if c = '\'' ∨ c = '"' then l.readQuoted c
  else if startsPlain l.inFlow c s then l.readPlain
  else l.here.refuse .startsNothing .nextToken l.here.toMark

def step (l : Lexer) : Reading Lexer := do
  let m ← (skipGap (l.here.rest.length + 1) l).dropStaleKeys
  let closed := m.closeBlocks (m.here.column + 1)
  let next ← match closed.here.rest with
    | [] => closed.finish
    | c :: s => closed.readToken c s
  next.dropStaleKeys

/-- The number of tokens in front of all that may yet become keys. -/
def settled (l : Lexer) : Nat :=
  (l.key :: l.outerKeys).foldl (fun n key => key.elim n fun k => min n k.place) l.tokens.size

/-- Where it cannot go on, the tokens that were not settled before are given up. -/
def run : (fuel : Nat) → Lexer → List Located
  | 0, l => l.tokens.toList
  | n + 1, l =>
    match l.step with
    | .ok m => if m.isOver then m.tokens.toList else run n m
    | .error fault => l.tokens.toList.take l.settled ++ [(.broken fault, l.here.toMark)]

end Lexer

/-- They end with the end of the text or with what is no token. -/
def tokens (text : String) : List Located :=
  let s := text.toList
  if s.all isAllowed then Lexer.run (s.length + 2) (Lexer.start (unifyLineEnds s))
  else [(.broken (.badCharacter (Text.byteCount (s.takeWhile isAllowed))), Mark.start)]

end DesignMarkup.Yaml
