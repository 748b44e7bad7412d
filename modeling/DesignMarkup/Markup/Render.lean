import DesignMarkup.Element.Check
import DesignMarkup.Markup.Hook
import DesignMarkup.Markup.Syntax
import DesignMarkup.Style.Inline
/-!
Rendering of elements. An element with a registered hook is written by it, any other in the default
form. A hook runs once for each key, which is the id of its element or else its place; what it gave
is kept for the rest of the rendering. While it runs, and after it failed, its element is written in
the default form. The first failure for an id is a finding.
-/
namespace DesignMarkup.Markup

inductive Key where
  | id (name : String)
  | place (n : Nat)
deriving DecidableEq, Repr

def View.key? (v : View) : Option Key :=
  match v.element.id with
  | some id => some (.id id)
  | none => v.place.map .place

structure Run where
  hook : String
  view : View

inductive Event where
  /-- A hook is looked up for an element, and called if it is registered. -/
  | attempt (run : Run) (called : Bool)
  /-- A hook asks for the default form of an element. -/
  | generate (run : Run) (view : View)
  | settle (run : Run) (result : Except HookFailure String)
  | written (depth : Nat) (view : View) (text : String)

def Event.run? : Event → Option Run
  | .attempt run called => if called then some run else none
  | _ => none

/-- `outputs` holds for each key what its hook gave, or nothing while it has given nothing. -/
structure Session (Memory : Type := Unit) where
  memory : Memory
  outputs : List (Key × Option String) := []
  findings : List Finding := []
  events : List Event := []

variable {Memory : Type}

/-- There is no result if hooks are nested too deeply. -/
abbrev Rendering (Memory : Type) := OptionT (StateM (Session Memory))

namespace Session

def record (s : Session Memory) (key : Option Key) (output : Option String) : Session Memory :=
  match key with
  | some k => { s with outputs := (k, output) :: s.outputs }
  | none => s

def report (s : Session Memory) (run : Run) (failure : HookFailure) : Session Memory :=
  match run.view.element.id with
  | some id => { s with findings := s.findings ++ [Finding.hookFailure id run.hook failure] }
  | none => s

def note (s : Session Memory) (event : Event) : Session Memory :=
  { s with events := s.events ++ [event] }

def recorded? (s : Session Memory) (key : Option Key) : Option (Option String) :=
  key.bind fun k => s.outputs.lookup k

/-- Until its hook gives an output, an element is written in the default form. -/
def attempt (s : Session Memory) (run : Run) (called : Bool) : Session Memory :=
  (s.record run.view.key? none).note (.attempt run called)

def settle (s : Session Memory) (run : Run) (result : Except HookFailure String) :
    Session Memory :=
  match result with
  | .ok output => (s.record run.view.key? (some output)).note (.settle run result)
  | .error failure => (s.report run failure).note (.settle run result)

def runs (s : Session Memory) : List Run := s.events.filterMap Event.run?

end Session

def perform {α : Type} (m : Rendering Memory α) (s : Session Memory) : Option α × Session Memory :=
  m.run.run s

/-- The output of an element's hook; nothing if it is to be written in the default form. -/
abbrev Override (Memory : Type) := View → Rendering Memory (Option String)

def childLines (depth : Nat) (texts : List String) : String :=
  String.join (texts.map fun text => "\n" ++ indent (depth + 1) ++ text)

def assemble (e : Element) (depth : Nat) (extra children : List String) : String :=
  let head := openTag e.tag
    (commonAttributes e.attributes e.asset? ++ extra ++ e.style.inlineAttribute?.toList)
  match e.content with
  | .text s => head ++ ">" ++ textContent s ++ closeTag e.tag
  | .asset _ => head ++ " />"
  | .children [] => head ++ " />"
  | .children _ =>
    head ++ ">" ++ childLines depth children ++ "\n" ++ indent depth ++ closeTag e.tag

def write (depth : Nat) (v : View) (text : String) : Rendering Memory String := do
  modify (·.note (.written depth v text))
  return text

mutual

def render (override : Override Memory) (depth : Nat) (place : Option Nat) :
    Element → Rendering Memory String
  | e@{ attributes, content, .. } => do
    match ← override ⟨e, place⟩ with
    | some output => write depth ⟨e, place⟩ output
    | none =>
      let extra ← renderAttributes override depth (place.map (· + 1)) attributes
      let inside := place.map (· + 1 + (Element.visitAttributes attributes).length)
      let children ← renderContent override (depth + 1) inside content
      write depth ⟨e, place⟩ (assemble e depth extra children)

def renderAttributes (override : Override Memory) (depth : Nat) (place : Option Nat) :
    Attributes → Rendering Memory (List String)
  | { extra, .. } => renderExtra override depth place extra

def renderExtra (override : Override Memory) (depth : Nat) (place : Option Nat) :
    List (String × Attribute) → Rendering Memory (List String)
  | [] => return []
  | (key, value) :: rest => do
    let after := place.map (· + (Element.visitAttribute value).length)
    if isAttributeName key then
      let text ← renderAttribute override depth place key value
      return text :: (← renderExtra override depth after rest)
    else renderExtra override depth after rest

def renderAttribute (override : Override Memory) (depth : Nat) (place : Option Nat)
    (key : String) : Attribute → Rendering Memory String
  | .element e => do return key ++ "=" ++ braced (← render override depth place e)
  | .data value => return dataAttribute key value

def renderContent (override : Override Memory) (depth : Nat) (place : Option Nat) :
    Content → Rendering Memory (List String)
  | .children items => renderAll override depth place items
  | .text _ => return []
  | .asset _ => return []

def renderAll (override : Override Memory) (depth : Nat) (place : Option Nat) :
    List Element → Rendering Memory (List String)
  | [] => return []
  | e :: rest => do
    let text ← render override depth place e
    return text :: (← renderAll override depth (place.map (· + e.count)) rest)

end

/-- The default form of an element, whatever its own hook; what is below goes through its hooks. -/
def renderDefault (override : Override Memory) (depth : Nat) (v : View) :
    Rendering Memory String := do
  let e := v.element
  let extra ← renderAttributes override depth (v.place.map (· + 1)) e.attributes
  let inside := v.place.map (· + 1 + (Element.visitAttributes e.attributes).length)
  let children ← renderContent override (depth + 1) inside e.content
  return assemble e depth extra children

def answer (override : Override Memory) (run : Run) (v : View) : Rendering Memory String := do
  modify (·.note (.generate run v))
  renderDefault override 0 v

def runDelegation (generate : View → Rendering Memory String) :
    Delegation Memory → Rendering Memory (Except HookFailure String)
  | .finish output => return .ok output
  | .fail message => return .error (.failed message)
  | .panic => return .error .panicked
  | .generate view next => do runDelegation generate (next (← generate view))
  | .load next => do runDelegation generate (next (← get).memory)
  | .store memory next => do
    modify ({ · with memory })
    runDelegation generate next

/-- Calls the hook of an attempt; `inner` is for the elements that the hook asks for. Without it
hooks are nested too deeply. -/
def invoke (registry : Registry Memory) (inner : Option (Override Memory)) (run : Run) :
    Rendering Memory (Except HookFailure String) :=
  match registry.get? run.hook, inner with
  | none, _ => return .error .unregistered
  | some _, none => failure
  | some hook, some override => runDelegation (answer override run) (hook run.view)

def overrideBy (registry : Registry Memory) (inner : Option (Override Memory)) : Override Memory :=
  fun v =>
    match v.element.template with
    | none => return none
    | some hook => do
      match (← get).recorded? v.key? with
      | some output => return output
      | none =>
        let run : Run := ⟨hook, v⟩
        modify (·.attempt run (registry.contains hook))
        let result ← invoke registry inner run
        modify (·.settle run result)
        return result.toOption

/-- `nesting` bounds the hooks that are running at one time. -/
def overrideWithin (registry : Registry Memory) : (nesting : Nat) → Override Memory
  | 0 => overrideBy registry none
  | n + 1 => overrideBy registry (some (overrideWithin registry n))

/-- The session is that of the whole rendering, or up to where hooks are nested too deeply.
Continuation lines are indented by `depth` levels. -/
def rendering (registry : Registry Memory) (nesting depth : Nat) (tree : Frozen)
    (memory : Memory) : Option String × Session Memory :=
  perform (render (overrideWithin registry nesting) depth (some 0) tree.element) { memory }

structure Rendered where
  markup : String
  findings : List Finding
  runs : List Run

def renderAt? [Inhabited Memory] (registry : Registry Memory) (nesting depth : Nat)
    (tree : Frozen) (memory : Memory := default) : Option Rendered :=
  match rendering registry nesting depth tree memory with
  | (some markup, s) => some ⟨markup, s.findings, s.runs⟩
  | (none, _) => none

end DesignMarkup.Markup
