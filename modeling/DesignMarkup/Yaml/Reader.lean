import DesignMarkup.Yaml.Event
import DesignMarkup.Yaml.Plain
/-!
YAML texts of one document, read as JSON values. A reference stands for the node at its anchor. At
most 128 collections lie in one another, and references are followed at most a hundred times as
often as there are events. What cannot be read as a value is told before what is wrong with the text
behind it.
-/
namespace DesignMarkup.Yaml

/-- A reader at an event, with the number of references that it may still follow. -/
structure Place where
  events : List (Event × Mark)
  jumps : Nat

def under {α : Type} (step : Step) (r : Reading α) : Reading α :=
  r.mapError fun
    | .refused path reason place => .refused (step :: path) reason place
    | fault => fault

def refuseAt {α : Type} (place : Mark) (reason : Json.Reason) : Reading α :=
  .error (.refused [] reason place)

def checkTag (place : Mark) (tag : Option String) : Reading Unit :=
  if tag.any isLocalTag then refuseAt place localTag else .ok ()

def Document.next (d : Document) (p : Place) : Reading (Event × Mark × Place) :=
  match p.events with
  | (event, place) :: rest => .ok (event, place, { p with events := rest })
  | [] => .error (d.fault.getD .severalDocuments)

/-- The place of an anchor, if it may be visited. -/
def Document.jump (d : Document) (anchor jumps : Nat) : Reading Place :=
  match jumps, d.places.lookup anchor with
  | k + 1, some place => .ok ⟨d.events.drop place, k⟩
  | _, _ => .error .tooManyReferences

def keyText (expected : String) (place : Mark) : Event → Reading String
  | .scalar _ text _ => .ok text
  | .items _ => refuseAt place (.wrongType (.array []) expected)
  | _ => refuseAt place (.wrongType (.object []) expected)

/-- A key is the text of a scalar, whatever its tag. It comes with the step to its value. -/
def Document.key (d : Document) (isFirst : Bool) (p : Place) : Reading (String × Step × Place) := do
  let expected := if isFirst then "a string key" else "a string"
  match ← d.next p with
  | (.reference anchor, _, after) =>
    let there ← d.jump anchor p.jumps
    let (event, place, _) ← d.next there
    return (← keyText expected place event, .unknownKey, { after with jumps := there.jumps })
  | (event, place, after) =>
    let text ← keyText expected place event
    return (text, .key text, after)

mutual

def value (d : Document) : (fuel depth : Nat) → Place → Reading (Json × Place)
  | 0, _, _ => .error .tooManyReferences
  | n + 1, depth, p => do
    let (event, place, after) ← d.next p
    match event, depth with
    | .scalar tag text isPlain, _ =>
      match scalarValue tag text isPlain with
      | .ok v => return (v, after)
      | .error reason => refuseAt place reason
    | .reference anchor, _ =>
      let (v, there) ← value d n depth (← d.jump anchor p.jumps)
      return (v, { after with jumps := there.jumps })
    | .items tag, inner + 1 =>
      checkTag place tag
      items d n inner [] after
    | .entries tag, inner + 1 =>
      checkTag place tag
      entries d n inner [] after
    | .items tag, 0 =>
      checkTag place tag
      throw (.tooDeep place)
    | .entries tag, 0 =>
      checkTag place tag
      throw (.tooDeep place)
    | .itemsEnd, _ => throw .severalDocuments
    | .entriesEnd, _ => throw .severalDocuments

def items (d : Document) : (fuel depth : Nat) → List Json → Place → Reading (Json × Place)
  | 0, _, _, _ => .error .tooManyReferences
  | n + 1, depth, read, p => do
    match ← d.next p with
    | (.itemsEnd, _, after) => return (.array read.reverse, after)
    | _ =>
      let (v, after) ← under (.index read.length) (value d n depth p)
      items d n depth (v :: read) after

def entries (d : Document) : (fuel depth : Nat) → Dict Json → Place → Reading (Json × Place)
  | 0, _, _, _ => .error .tooManyReferences
  | n + 1, depth, read, p => do
    match ← d.next p with
    | (.entriesEnd, _, after) => return (.object read, after)
    | _ =>
      let (key, step, afterKey) ← d.key read.isEmpty p
      let (v, after) ← under step (value d n depth afterKey)
      entries d n depth (Dict.insert read key v) after

end

def Document.value (d : Document) : Reading Json := do
  let size := d.events.length
  if d.events.isEmpty && d.fault.isNone then return .null
  let (v, _) ← Yaml.value d (300 * (size + 1)) 128 ⟨d.events, 100 * size⟩
  if let some fault := d.fault then throw fault
  if d.isOnly then return v else throw .severalDocuments

def read (text : String) : Reading Json := (Document.ofTokens (tokens text)).value

end DesignMarkup.Yaml
