import DesignMarkup.Dependency
import DesignMarkup.Style.Basic
/-!
Markup elements. An element carries children, a text or an asset, never two of them; an attribute
is plain data or an element of its own.
-/
namespace DesignMarkup

mutual

structure Element where
  tag : String
  /-- Set if `tag` is a component of this package. -/
  package : Option String
  isDefault : Bool
  style : Style
  attributes : Attributes
  content : Content
  dependencies : DependencySet
  /-- The name of the layer in the design; several may share one. -/
  name : String
  /-- The kind of the layer. -/
  kind : String
  id : Option String
  /-- The hook that writes the element in place of the default output. -/
  template : Option String

structure Attributes where
  className : Option String
  src : Option String
  alt : Option String
  extra : List (String × Attribute)

inductive Attribute where
  | element (e : Element)
  | data (value : Json)

inductive Content where
  | children (items : List Element)
  | text (value : String)
  /-- The address of an image that stands in for everything below. -/
  | asset (url : String)

end

namespace Attributes

def empty : Attributes := ⟨none, none, none, []⟩

def isEmpty (a : Attributes) : Bool :=
  a.className.isNone && a.src.isNone && a.alt.isNone && a.extra.isEmpty

/-- A string under one of the three common names goes to its own field. -/
def insert (a : Attributes) (key : String) (value : Attribute) : Attributes :=
  match key, value with
  | "className", .data (.string s) => { a with className := some s }
  | "src", .data (.string s) => { a with src := some s }
  | "alt", .data (.string s) => { a with alt := some s }
  | _, _ => { a with extra := Dict.insert a.extra key value }

def elements (a : Attributes) : List (String × Element) :=
  a.extra.filterMap fun (key, value) =>
    match value with
    | .element e => some (key, e)
    | .data _ => none

end Attributes

def Content.items : Content → List Element
  | .children items => items
  | _ => []

namespace Element

def of (tag name kind : String) : Element where
  tag := tag
  package := none
  isDefault := false
  style := {}
  attributes := .empty
  content := .children []
  dependencies := .empty
  name := name
  kind := kind
  id := none
  template := none

def withId (e : Element) (id : String) : Element := { e with id := some id }

def withStyle (e : Element) (style : Style) : Element := { e with style }

def withText (e : Element) (text : String) : Element := { e with content := .text text }

def withAsset (e : Element) (url : String) : Element := { e with content := .asset url }

def withChildren (e : Element) (items : List Element) : Element :=
  { e with content := .children items }

def withAttribute (e : Element) (key : String) (value : Attribute) : Element :=
  { e with attributes := e.attributes.insert key value }

def withComponent (e : Element) (package : String) (isDefault : Bool) : Element :=
  { e with
    dependencies := (e.dependencies.insert ⟨e.tag, package, isDefault⟩).1
    package := some package
    isDefault }

def children (e : Element) : List Element := e.content.items

def text? (e : Element) : Option String :=
  match e.content with
  | .text s => some s
  | _ => none

def asset? (e : Element) : Option String :=
  match e.content with
  | .asset url => some url
  | _ => none

mutual

/-- The element, the elements of its attributes, then its children, all with what is below them. -/
def visit : Element → List Element
  | e@{ attributes, content, .. } => e :: (visitAttributes attributes ++ visitContent content)

def visitAttributes : Attributes → List Element
  | { extra, .. } => visitExtra extra

def visitExtra : List (String × Attribute) → List Element
  | [] => []
  | (_, value) :: rest => visitAttribute value ++ visitExtra rest

def visitAttribute : Attribute → List Element
  | .element e => visit e
  | .data _ => []

def visitContent : Content → List Element
  | .children items => visitAll items
  | .text _ => []
  | .asset _ => []

def visitAll : List Element → List Element
  | [] => []
  | e :: rest => visit e ++ visitAll rest

end

def descendants (e : Element) : List Element := visitAttributes e.attributes ++ visitContent e.content

theorem visit_eq (e : Element) : e.visit = e :: e.descendants := by
  cases e
  rw [visit]
  rfl

def count (e : Element) : Nat := e.visit.length

def ids (e : Element) : List String := e.visit.filterMap (·.id)

def find? (e : Element) (id : String) : Option Element := e.visit.find? fun x => x.id == some id

end Element
end DesignMarkup
