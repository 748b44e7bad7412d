import DesignMarkup.Yaml.Token
/-!
The nodes of a YAML text as events: scalars, references, and the starts and ends of collections, in
the order of the text. What was read before a fault stays.

An anchor is known by a number, which is the number of names before it. A name that is used again
takes the number that a fresh one would, so the next fresh name shares it; for each number the last
place counts.
-/
namespace DesignMarkup.Yaml

inductive Event where
  | scalar (tag : Option String) (text : String) (isPlain : Bool)
  | reference (anchor : Nat)
  | items (tag : Option String)
  | itemsEnd
  | entries (tag : Option String)
  | entriesEnd

structure Anchors where
  numbers : List (String × Nat)
  places : List (Nat × Nat)

def Anchors.note (a : Anchors) (name : String) (place : Nat) : Anchors :=
  let number := a.numbers.length
  ⟨(name, number) :: a.numbers.filter (·.1 ≠ name), (number, place) :: a.places⟩

/-- What was read, the last event first, and the tokens that are left. -/
structure Composing where
  events : List (Event × Mark)
  anchors : Anchors
  tokens : List Located

abbrev Compose := ExceptT Fault (StateM Composing)

namespace Compose

def peek : Compose Located := do
  match (← get).tokens with
  | [] => return (.textEnd, Mark.start)
  | (.broken fault, _) :: _ => throw fault
  | t :: _ => return t

def skip : Compose Unit := modify fun c => { c with tokens := c.tokens.drop 1 }

def emit (e : Event) (start : Mark) : Compose Unit :=
  modify fun c => { c with events := (e, start) :: c.events }

/-- Where no node stands there is an empty scalar. -/
def emitEmpty (start : Mark) : Compose Unit := emit (.scalar none "" true) start

def emitNode (anchor : Option String) (e : Event) (start : Mark) : Compose Unit := do
  if let some name := anchor then
    modify fun c => { c with anchors := c.anchors.note name c.events.length }
  emit e start

def malformed {α : Type} (problem : Problem) (place : Mark) (during : Option (Activity × Mark)) :
    Compose α :=
  throw (.malformed problem place during)

def exhausted : Compose Unit := throw (.tooDeep Mark.start)

def anchor? : Compose (Option String) := do
  match ← peek with
  | (.anchor name, _) =>
    skip
    return some name
  | _ => return none

def tag? : Compose (Option (TagName × Mark)) := do
  match ← peek with
  | (.tag name, place) =>
    skip
    return some (name, place)
  | _ => return none

end Compose

open Compose

abbrev Handles := List (String × String)

def properties : Compose (Option String × Option (TagName × Mark)) := do
  let before ← anchor?
  let tag ← tag?
  let behind ← if before.isNone then anchor? else pure none
  return (before.or behind, tag)

def fullTag (handles : Handles) (start : Mark) : Option (TagName × Mark) → Compose (Option String)
  | none => return none
  | some (name, place) =>
    if name.handle.isEmpty then return some name.suffix
    else
      match handles.lookup name.handle with
      | some meaning => return some (meaning ++ name.suffix)
      | none => malformed .unknownHandle place (some (.node, start))

/-- A lone exclamation mark is no tag of a scalar. -/
def scalarTag (tag : Option String) : Option String := if tag = some "!" then none else tag

def refer (name : String) (start : Mark) : Compose Unit := do
  match (← get).anchors.numbers.lookup name with
  | some number => emit (.reference number) start
  | none => throw (.unknownAnchor start)

/-- Whether the next token is one of those for which no node stands. -/
def endsHere (isEnd : Token → Bool) : Compose Bool := do return isEnd (← peek).1

def endsItem (t : Token) : Bool := t matches .dash | .blockEnd

def endsIndentlessItem (t : Token) : Bool := t matches .dash | .key | .value | .blockEnd

def endsEntryPart (t : Token) : Bool := t matches .key | .value | .blockEnd

def endsPairKey (t : Token) : Bool := t matches .value | .comma | .flowItemsEnd

def endsPairValue (t : Token) : Bool := t matches .comma | .flowItemsEnd

def endsFlowKey (t : Token) : Bool := t matches .value | .comma | .flowEntriesEnd

def endsFlowValue (t : Token) : Bool := t matches .comma | .flowEntriesEnd

mutual

/-- In a block a node may be a block; where `indentless`, the dashes of a list may stand below the
key that it belongs to. -/
def node (handles : Handles) (inBlock indentless : Bool) : (fuel : Nat) → Compose Unit
  | 0 => exhausted
  | n + 1 => do
    let (first, start) ← peek
    if let .reference name := first then
      skip
      refer name start
    else
      let (anchor, written) ← properties
      let (content, place) ← peek
      let tag ← fullTag handles start written
      match content, inBlock, indentless with
      | .dash, _, true =>
        emitNode anchor (.items tag) start
        indentlessItems handles n
      | .scalar text isPlain, _, _ =>
        skip
        emitNode anchor (.scalar (scalarTag tag) text isPlain) start
      | .flowItems, _, _ =>
        skip
        emitNode anchor (.items tag) start
        flowItems handles place true n
      | .flowEntries, _, _ =>
        skip
        emitNode anchor (.entries tag) start
        flowEntries handles place true n
      | .blockItems, true, _ =>
        skip
        emitNode anchor (.items tag) start
        blockItems handles place n
      | .blockEntries, true, _ =>
        skip
        emitNode anchor (.entries tag) start
        blockEntries handles place n
      | _, _, _ =>
        if anchor.isSome || tag.isSome then emitNode anchor (.scalar tag "" true) start
        else malformed .noContent place (some (if inBlock then .blockNode else .flowNode, start))

def blockItems (handles : Handles) (start : Mark) : (fuel : Nat) → Compose Unit
  | 0 => exhausted
  | n + 1 => do
    match ← peek with
    | (.dash, place) =>
      skip
      if ← endsHere endsItem then emitEmpty place else node handles true false n
      blockItems handles start n
    | (.blockEnd, place) =>
      skip
      emit .itemsEnd place
    | (_, place) => malformed .noDash place (some (.blockItems, start))

/-- The end of such a list has no token. -/
def indentlessItems (handles : Handles) : (fuel : Nat) → Compose Unit
  | 0 => exhausted
  | n + 1 => do
    match ← peek with
    | (.dash, place) =>
      skip
      if ← endsHere endsIndentlessItem then emitEmpty place else node handles true false n
      indentlessItems handles n
    | (_, place) => emit .itemsEnd place

def blockEntries (handles : Handles) (start : Mark) : (fuel : Nat) → Compose Unit
  | 0 => exhausted
  | n + 1 => do
    match ← peek with
    | (.key, place) =>
      skip
      if ← endsHere endsEntryPart then emitEmpty place else node handles true true n
      match ← peek with
      | (.value, place) =>
        skip
        if ← endsHere endsEntryPart then emitEmpty place else node handles true true n
      | (_, place) => emitEmpty place
      blockEntries handles start n
    | (.blockEnd, place) =>
      skip
      emit .entriesEnd place
    | (_, place) => malformed .noKey place (some (.blockEntries, start))

def flowItems (handles : Handles) (start : Mark) (isFirst : Bool) : (fuel : Nat) → Compose Unit
  | 0 => exhausted
  | n + 1 => do
    let (next, place) ← peek
    if !isFirst && !(next matches .flowItemsEnd) then
      if next matches .comma then skip
      else malformed .noItemMark place (some (.flowItems, start))
    match ← peek with
    | (.flowItemsEnd, place) =>
      skip
      emit .itemsEnd place
    | (.key, place) =>
      skip
      flowPair handles place n
      flowItems handles start false n
    | _ =>
      node handles false false n
      flowItems handles start false n

/-- Starts behind the mark of a key. A pair with an empty key loses the token that shows it. -/
def flowPair (handles : Handles) (start : Mark) : (fuel : Nat) → Compose Unit
  | 0 => exhausted
  | n + 1 => do
    emit (.entries none) start
    if ← endsHere endsPairKey then
      skip
      emitEmpty start
    else node handles false false n
    match ← peek with
    | (.value, place) =>
      skip
      if ← endsHere endsPairValue then emitEmpty place else node handles false false n
    | (_, place) => emitEmpty place
    emit .entriesEnd (← peek).2

def flowEntries (handles : Handles) (start : Mark) (isFirst : Bool) : (fuel : Nat) → Compose Unit
  | 0 => exhausted
  | n + 1 => do
    let (next, place) ← peek
    if !isFirst && !(next matches .flowEntriesEnd) then
      if next matches .comma then skip
      else malformed .noEntryMark place (some (.flowEntries, start))
    match ← peek with
    | (.flowEntriesEnd, place) =>
      skip
      emit .entriesEnd place
    | _ =>
      flowEntry handles n
      flowEntries handles start false n

def flowEntry (handles : Handles) : (fuel : Nat) → Compose Unit
  | 0 => exhausted
  | n + 1 => do
    match ← peek with
    | (.key, place) =>
      skip
      if ← endsHere endsFlowKey then emitEmpty place else node handles false false n
      match ← peek with
      | (.value, place) =>
        skip
        if ← endsHere endsFlowValue then emitEmpty place else node handles false false n
      | (_, place) => emitEmpty place
    | _ =>
      node handles false false n
      emitEmpty (← peek).2

end

/-- The directives before a document; each handle is declared once, and so is the version. -/
def directives : (isDeclared : Bool) → Handles → (fuel : Nat) → Compose Handles
  | _, handles, 0 => return handles
  | isDeclared, handles, n + 1 => do
    match ← peek with
    | (.directive (.version major minor), place) =>
      if isDeclared then malformed .repeatedVersion place none
      else if major != 1 || (minor != 1 && minor != 2) then malformed .unknownVersion place none
      else
        skip
        directives true handles n
    | (.directive (.tagHandle handle expansion), place) =>
      if (handles.lookup handle).isSome then malformed .repeatedHandle place none
      else
        skip
        directives isDeclared ((handle, expansion) :: handles) n
    | _ => return handles

def commonHandles : Handles := [("!", "!"), ("!!", "tag:yaml.org,2002:")]

def isDocumentMark (t : Token) : Bool :=
  t matches .directive _ | .documentStart | .documentEnd | .textEnd

/-- The first document, up to what comes behind it. -/
def document (fuel : Nat) : Compose Unit := do
  match ← peek with
  | (.textEnd, _) => return
  | (.documentStart, _) | (.directive _, _) =>
    let handles ← directives false [] fuel
    match ← peek with
    | (.documentStart, place) =>
      skip
      if ← endsHere isDocumentMark then emitEmpty place
      else node (handles ++ commonHandles) true false fuel
    | (_, place) => malformed .noDocumentStart place none
  | _ => node commonHandles true false fuel
  let _ ← peek

structure Document where
  events : List (Event × Mark)
  places : List (Nat × Nat)
  /-- Why there are no further events. -/
  fault : Option Fault
  /-- There is no other document. -/
  isOnly : Bool

def Document.ofTokens (tokens : List Located) : Document :=
  let (result, c) := (document (4 * tokens.length + 4)).run.run ⟨[], ⟨[], []⟩, tokens⟩
  let rest := c.tokens.dropWhile fun t => t.1 matches .documentEnd
  { events := c.events.reverse
    places := c.anchors.places
    fault := match result with
      | .ok _ => none
      | .error fault => some fault
    isOnly := match rest with
      | [(.textEnd, _)] => true
      | _ => false }

end DesignMarkup.Yaml
