import DesignMarkup.Json.Refusal
/-!
What is wrong with a YAML text, and where. The problem comes first, then what was being read when it
was met.
-/
namespace DesignMarkup.Yaml

structure Mark where
  line : Nat
  column : Nat
deriving DecidableEq, Repr

namespace Mark

def start : Mark := ⟨0, 0⟩

def text (m : Mark) : String :=
  "line " ++ toString (m.line + 1) ++ " column " ++ toString (m.column + 1)

/-- The start of the text is not worth telling. -/
def note (m : Mark) : String := if m = start then "" else " at " ++ m.text

end Mark

inductive Activity where
  | nextToken
  | simpleKey
  | directive
  | version
  | tagDirective
  | directiveMark
  | directiveHandle
  | directiveTag
  | anchor
  | reference
  | tag
  | tagText
  | blockScalar
  | quotedScalar
  | quotedEscape
  | plainScalar
  | node
  | blockNode
  | flowNode
  | blockItems
  | blockEntries
  | flowItems
  | flowEntries
deriving DecidableEq, Repr

def Activity.text : Activity → String
  | nextToken => "while scanning for the next token"
  | simpleKey => "while scanning a simple key"
  | directive => "while scanning a directive"
  | version => "while scanning a %YAML directive"
  | tagDirective => "while scanning a %TAG directive"
  | directiveMark => "while scanning a tag directive"
  | directiveHandle => "while parsing a tag directive"
  | directiveTag => "while parsing a %TAG directive"
  | anchor => "while scanning an anchor"
  | reference => "while scanning an alias"
  | tag => "while scanning a tag"
  | tagText => "while parsing a tag"
  | blockScalar => "while scanning a block scalar"
  | quotedScalar => "while scanning a quoted scalar"
  | quotedEscape => "while parsing a quoted scalar"
  | plainScalar => "while scanning a plain scalar"
  | node => "while parsing a node"
  | blockNode => "while parsing a block node"
  | flowNode => "while parsing a flow node"
  | blockItems => "while parsing a block collection"
  | blockEntries => "while parsing a block mapping"
  | flowItems => "while parsing a flow sequence"
  | flowEntries => "while parsing a flow mapping"

inductive Problem where
  | startsNothing
  | noColon
  | misplacedDash
  | misplacedKey
  | misplacedValue
  | unknownDirective
  | noDirectiveName
  | badDirectiveName
  | noLineEnd
  | noVersion
  | noVersionMark
  | longVersion
  | noExclamation
  | noBlank
  | noGap
  | noTagText
  | noTagEnd
  | noOctet
  | badFirstOctet
  | badNextOctet
  | noName
  | zeroIndent
  | tabInBlock
  | tabInPlain
  | documentMark
  | textEnd
  | unknownEscape
  | noHexDigit
  | badCode
  | misplacedColon
  | noDocumentStart
  | repeatedVersion
  | unknownVersion
  | repeatedHandle
  | unknownHandle
  | noContent
  | noDash
  | noKey
  | noItemMark
  | noEntryMark
deriving DecidableEq, Repr

def Problem.text : Problem → String
  | startsNothing => "found character that cannot start any token"
  | noColon => "could not find expected ':'"
  | misplacedDash => "block sequence entries are not allowed in this context"
  | misplacedKey => "mapping keys are not allowed in this context"
  | misplacedValue => "mapping values are not allowed in this context"
  | unknownDirective => "found unknown directive name"
  | noDirectiveName => "could not find expected directive name"
  | badDirectiveName => "found unexpected non-alphabetical character"
  | noLineEnd => "did not find expected comment or line break"
  | noVersion => "did not find expected version number"
  | noVersionMark => "did not find expected digit or '.' character"
  | longVersion => "found extremely long version number"
  | noExclamation => "did not find expected '!'"
  | noBlank => "did not find expected whitespace"
  | noGap => "did not find expected whitespace or line break"
  | noTagText => "did not find expected tag URI"
  | noTagEnd => "did not find the expected '>'"
  | noOctet => "did not find URI escaped octet"
  | badFirstOctet => "found an incorrect leading UTF-8 octet"
  | badNextOctet => "found an incorrect trailing UTF-8 octet"
  | noName => "did not find expected alphabetic or numeric character"
  | zeroIndent => "found an indentation indicator equal to 0"
  | tabInBlock => "found a tab character where an indentation space is expected"
  | tabInPlain => "found a tab character that violates indentation"
  | documentMark => "found unexpected document indicator"
  | textEnd => "found unexpected end of stream"
  | unknownEscape => "found unknown escape character"
  | noHexDigit => "did not find expected hexdecimal number"
  | badCode => "found invalid Unicode character escape code"
  | misplacedColon => "found unexpected ':'"
  | noDocumentStart => "did not find expected <document start>"
  | repeatedVersion => "found duplicate %YAML directive"
  | unknownVersion => "found incompatible YAML document"
  | repeatedHandle => "found duplicate %TAG directive"
  | unknownHandle => "found undefined tag handle"
  | noContent => "did not find expected node content"
  | noDash => "did not find expected '-' indicator"
  | noKey => "did not find expected key"
  | noItemMark => "did not find expected ',' or ']'"
  | noEntryMark => "did not find expected ',' or '\x7d'"

/-- A step from a collection to a value in it. The key may be one that is told by a reference. -/
inductive Step where
  | key (name : String)
  | unknownKey
  | index (n : Nat)
deriving DecidableEq, Repr

def joined (front : Option String) (step : Step) : Option String :=
  let before := (front.map (· ++ ".")).getD ""
  match step with
  | .key name => some (before ++ name)
  | .unknownKey => some (before ++ "?")
  | .index n => some (front.getD "." ++ "[" ++ toString n ++ "]")

def pathText (path : List Step) : String := (path.foldl joined none).getD "."

inductive Fault where
  /-- What was being read is told with its start. -/
  | malformed (problem : Problem) (place : Mark) (during : Option (Activity × Mark))
  /-- A character that no text may hold, after so many bytes. -/
  | badCharacter (offset : Nat)
  | unknownAnchor (place : Mark)
  | tooDeep (place : Mark)
  | tooManyReferences
  | severalDocuments
  | refused (path : List Step) (reason : Json.Reason) (place : Mark)

/-- The start of what was being read is left out if the problem lies there. -/
def Fault.message : Fault → String
  | malformed problem place during =>
    problem.text ++ place.note ++
      match during with
      | some (activity, start) =>
        ", " ++ activity.text ++ (if start = place then "" else start.note)
      | none => ""
  | badCharacter offset =>
    "control characters are not allowed" ++
      (if offset = 0 then "" else " at position " ++ toString offset)
  | unknownAnchor place => "unknown anchor" ++ place.note
  | tooDeep place => "recursion limit exceeded" ++ place.note
  | tooManyReferences => "repetition limit exceeded"
  | severalDocuments =>
    "deserializing from YAML containing more than one document is not supported"
  | refused path reason place =>
    let front := pathText path
    (if front = "." then "" else front ++ ": ") ++ reason.message ++ place.note

abbrev Reading := Except Fault

end DesignMarkup.Yaml
