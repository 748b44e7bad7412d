import DesignMarkup.Json.Reader
import DesignMarkup.Yaml.Cursor
/-!
Tags, anchors and directives. The octets of a tag, escaped or not, are kept as characters. `start`
is the place of the mark that begins what is read.
-/
namespace DesignMarkup.Yaml

def isWordChar (c : Char) : Bool := c.isAlphanum || c == '_' || c == '-'

def anchorName (activity : Activity) (c : Cursor) : Reading (String × Cursor) :=
  let name := (c.skip 1).rest.takeWhile isWordChar
  let after := c.skip (1 + name.length)
  let mayFollow := atGap after.rest ||
    startsWithAny after.rest ['?', ':', ',', ']', '\x7d', '%', '@', '\x60']
  if name.isEmpty || !mayFollow then after.refuse .noName activity c.toMark
  else .ok (String.ofList name, after)

def isTagChar (verbatim : Bool) (c : Char) : Bool :=
  isWordChar c || ";/?:@&=+$.!~*'()".toList.contains c ||
    (verbatim && [',', '[', ']'].contains c)

def followers? (octet : Nat) : Option Nat :=
  if octet < 0x80 then some 0
  else if octet / 32 = 6 then some 1
  else if octet / 16 = 14 then some 2
  else if octet / 8 = 30 then some 3
  else none

/-- How many octets must follow an octet of which `pending` were to come. -/
def followOctet (pending octet : Nat) : Except Problem Nat :=
  match pending, followers? octet with
  | 0, some n => .ok n
  | 0, none => .error .badFirstOctet
  | k + 1, _ => if octet / 64 = 2 then .ok k else .error .badNextOctet

/-- As far as it goes, with what is left, or with the problem that is met there. -/
def tagFrom (verbatim : Bool) : (pending : Nat) → List Char → List Char →
    List Char × List Char × Option Problem
  | pending, read, '%' :: a :: b :: s =>
    match Text.hexDigit? a, Text.hexDigit? b with
    | some x, some y =>
      let octet := x * 16 + y
      match followOctet pending octet with
      | .ok n => tagFrom verbatim n (Char.ofNat octet :: read) s
      | .error problem => (read.reverse, '%' :: a :: b :: s, some problem)
    | _, _ => (read.reverse, '%' :: a :: b :: s, some .noOctet)
  | 0, read, c :: s =>
    if isTagChar verbatim c then tagFrom verbatim 0 (c :: read) s
    else (read.reverse, c :: s, if c = '%' then some .noOctet else none)
  | 0, read, [] => (read.reverse, [], none)
  | _ + 1, read, s => (read.reverse, s, some .noOctet)

def tagText (verbatim : Bool) (activity : Activity) (start : Mark) (c : Cursor) :
    Reading (String × Cursor) :=
  let (text, rest, problem?) := tagFrom verbatim 0 [] c.rest
  let after := c.skip (c.rest.length - rest.length)
  match problem? with
  | some problem => after.refuse problem activity start
  | none => .ok (String.ofList text, after)

def nonemptyTagText (verbatim : Bool) (activity : Activity) (start : Mark) (c : Cursor) :
    Reading (String × Cursor) := do
  let (text, after) ← tagText verbatim activity start c
  if text.isEmpty then after.refuse .noTagText activity start else return (text, after)

/-- A tag as it is written: a handle that a directive may explain, and a suffix. A whole tag has
the empty handle. -/
structure TagName where
  handle : String
  suffix : String
deriving DecidableEq

def tagName (c : Cursor) : Reading (TagName × Cursor) := do
  let start := c.toMark
  let inner := c.skip 1
  let word := inner.rest.takeWhile isWordChar
  let behind := inner.skip word.length
  if startsWithAny inner.rest ['<'] then
    let (whole, after) ← nonemptyTagText true .tagText start (inner.skip 1)
    if startsWithAny after.rest ['>'] then return (⟨"", whole⟩, after.skip 1)
    else after.refuse .noTagEnd .tag start
  else if startsWithAny behind.rest ['!'] then
    let (suffix, after) ← nonemptyTagText false .tagText start (behind.skip 1)
    return (⟨"!" ++ String.ofList word ++ "!", suffix⟩, after)
  else
    let (suffix, after) ← tagText false .tagText start inner
    return (if suffix.isEmpty then ⟨"", "!"⟩ else ⟨"!", suffix⟩, after)

inductive Directive where
  | version (major minor : Nat)
  | tagHandle (handle expansion : String)

def versionPart (start : Mark) (c : Cursor) : Reading (Nat × Cursor) :=
  let digits := c.rest.takeWhile Char.isDigit
  if digits.isEmpty then c.refuse .noVersion .version start
  else if 9 < digits.length then (c.skip 9).refuse .longVersion .version start
  else .ok (digits.foldl (fun n d => n * 10 + Json.digitValue d) 0, c.skip digits.length)

def versionDirective (start : Mark) (c : Cursor) : Reading (Directive × Cursor) := do
  let (major, behind) ← versionPart start (c.skipWhile isBlank)
  if startsWithAny behind.rest ['.'] then
    let (minor, after) ← versionPart start (behind.skip 1)
    return (.version major minor, after)
  else behind.refuse .noVersionMark .version start

/-- The handle that a directive explains: one exclamation mark, or a name between two. -/
def declaredHandle (start : Mark) (c : Cursor) : Reading (String × Cursor) :=
  if !startsWithAny c.rest ['!'] then c.refuse .noExclamation .directiveMark start
  else
    let word := (c.skip 1).rest.takeWhile isWordChar
    let behind := c.skip (1 + word.length)
    if startsWithAny behind.rest ['!'] then
      .ok ("!" ++ String.ofList word ++ "!", behind.skip 1)
    else if word.isEmpty then .ok ("!", behind)
    else behind.refuse .noExclamation .directiveHandle start

def tagDirective (start : Mark) (c : Cursor) : Reading (Directive × Cursor) := do
  let (handle, behind) ← declaredHandle start (c.skipWhile isBlank)
  if !startsWithAny behind.rest [' ', '\t'] then behind.refuse .noBlank .tagDirective start
  else
    let (expansion, after) ←
      nonemptyTagText true .directiveTag start (behind.skipWhile isBlank)
    if atGap after.rest then return (.tagHandle handle expansion, after)
    else after.refuse .noGap .tagDirective start

def directive (c : Cursor) : Reading (Directive × Cursor) := do
  let start := c.toMark
  let name := (c.skip 1).rest.takeWhile isWordChar
  let behind := c.skip (1 + name.length)
  if name.isEmpty then behind.refuse .noDirectiveName .directive start
  else if !atGap behind.rest then behind.refuse .badDirectiveName .directive start
  else
    let (d, after) ← match String.ofList name with
      | "YAML" => versionDirective start behind
      | "TAG" => tagDirective start behind
      | _ => behind.refuse .unknownDirective .directive start
    return (d, ← after.closeLine .directive start)

end DesignMarkup.Yaml
