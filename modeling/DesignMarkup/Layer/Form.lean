import DesignMarkup.Config
import DesignMarkup.Text.Basic
/-!
What a layer is emitted as. The first that applies counts: a placeholder for a layer that cannot be
read or placed, text, a mapped component, an image, and else a container of the layers below.
-/
namespace DesignMarkup

inductive Form where
  | placeholder (detail : String)
  | text
  | component (mapping : ComponentMapping)
  /-- An image at the address. -/
  | asset (url : String)
  | container
deriving DecidableEq, Repr

/-- Of several mappings of one component the last counts. -/
def Config.mapping? (c : Config) (component : String) : Option ComponentMapping :=
  (c.components.filter (·.component == component)).getLast?

def Config.keeps (c : Config) (l : Layer) : Bool := l.visible || !c.dropInvisible

namespace Layer

def isVector (l : Layer) : Bool :=
  ["VECTOR", "BOOLEAN_OPERATION", "STAR", "LINE", "POLYGON"].contains l.kind

def instanceOf? (l : Layer) : Option String :=
  if l.kind = "INSTANCE" then some (l.componentName.getD l.name) else none

def assetUrl? (l : Layer) : Option String :=
  let image := l.imageFill?.bind (·.imageRef)
  if l.isVector then some (image.getD ("assets/" ++ Text.slug l.id ++ ".svg"))
  else if l.children.isEmpty then image
  else none

def form (c : Config) (l : Layer) : Form :=
  match l.fault with
  | some detail => .placeholder ("malformed node: " ++ detail)
  | none =>
    if l.isText then .text
    else if l.bounds.isNone then .placeholder "missing absoluteBoundingBox"
    else
      match l.instanceOf?.bind c.mapping?, l.assetUrl? with
      | some mapping, _ => .component mapping
      | none, some url => .asset url
      | none, none => .container

end Layer
end DesignMarkup
