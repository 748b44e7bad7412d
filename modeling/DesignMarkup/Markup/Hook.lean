import DesignMarkup.Finding.Basic
/-!
Hooks that write an element in place of the default output. A hook sees the element and its place in
the rendered tree, and may ask for the default output of any element, as often as it likes, before
it ends. All hooks share a memory that outlasts their runs, so two runs on one element may differ.
-/
namespace DesignMarkup.Markup

/-- `place` is the position in the order of `Element.visit`; copies of an element have none. -/
structure View where
  element : Element
  place : Option Nat

inductive Delegation (Memory : Type := Unit) where
  | finish (output : String)
  | fail (message : String)
  | panic
  | generate (view : View) (next : String → Delegation Memory)
  | load (next : Memory → Delegation Memory)
  | store (memory : Memory) (next : Delegation Memory)

abbrev Hook (Memory : Type := Unit) := View → Delegation Memory

abbrev Registry (Memory : Type := Unit) := Dict (Hook Memory)

variable {Memory : Type}

def Registry.register (r : Registry Memory) (name : String) (hook : Hook Memory) :
    Registry Memory :=
  Dict.insert r name hook

def Registry.describe (r : Registry Memory) : String :=
  "HookRegistry \x7b hooks: [" ++ ", ".intercalate ((Dict.keys r).map Text.quoted) ++ "] \x7d"

def Delegation.andThen : Delegation Memory → (String → Delegation Memory) → Delegation Memory
  | .finish output, f => f output
  | .fail message, _ => .fail message
  | .panic, _ => .panic
  | .generate view next, f => .generate view fun output => (next output).andThen f
  | .load next, f => .load fun memory => (next memory).andThen f
  | .store memory next, f => .store memory (next.andThen f)

def View.copy (v : View) : View := ⟨v.element, none⟩

def attributeCount (extra : List (String × Attribute)) : Nat := (Element.visitExtra extra).length

def childViews (place : Option Nat) : List Element → List View
  | [] => []
  | e :: rest => ⟨e, place⟩ :: childViews (place.map (· + e.count)) rest

def View.children (v : View) : List View :=
  let start := v.place.map (· + 1 + attributeCount v.element.attributes.extra)
  childViews start v.element.children

end DesignMarkup.Markup
