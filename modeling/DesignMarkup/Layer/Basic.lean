import DesignMarkup.Color
import DesignMarkup.Json.Basic
/-!
Layers of a design, as a design tool hands them out. A layer that does not fit the schema is kept
with what could be recovered of it and a `fault`.
-/
namespace DesignMarkup

structure Bounds where
  x : Float
  y : Float
  width : Float
  height : Float

structure StrokeWeights where
  top : Float
  right : Float
  bottom : Float
  left : Float

structure Typography where
  fontFamily : Option String := none
  fontSize : Option Float := none
  fontWeight : Option Float := none
  italic : Bool := false
  lineHeightPx : Option Float := none
  lineHeightUnit : Option String := none
  letterSpacing : Option Float := none
  textAlignHorizontal : Option String := none
  textAlignVertical : Option String := none
  textCase : Option String := none
  textDecoration : Option String := none
  textTruncation : Option String := none
  maxLines : Option UInt32 := none

structure ColorStop where
  color : Color
  position : Float

structure Paint where
  kind : String
  visible : Bool := true
  color : Option Color := none
  opacity : Option Float := none
  /-- The address of an image paint. -/
  imageRef : Option String := none
  scaleMode : Option String := none
  gradientStops : List ColorStop := []
  /-- In degrees, as CSS turns them. -/
  gradientAngle : Option Float := none

structure Offset where
  x : Float
  y : Float

structure Effect where
  kind : String
  visible : Bool := true
  color : Option Color := none
  offset : Option Offset := none
  radius : Float := 0.0
  spread : Option Float := none

structure ComponentProperty where
  kind : String
  value : Json

structure Layer where
  id : String := ""
  name : String := ""
  kind : String := ""
  visible : Bool := true
  children : List Layer := []
  bounds : Option Bounds := none
  characters : Option String := none
  typography : Option Typography := none
  fills : List Paint := []
  strokes : List Paint := []
  strokeWeight : Option Float := none
  strokeWeights : Option StrokeWeights := none
  strokeDashes : List Float := []
  cornerRadius : Option Float := none
  /-- From the top left corner clockwise. -/
  cornerRadii : Option (List Float) := none
  effects : List Effect := []
  opacity : Option Float := none
  /-- In degrees, counter-clockwise. -/
  rotation : Option Float := none
  clipsContent : Bool := false
  layoutMode : Option String := none
  layoutWrap : Option String := none
  primaryAxisAlignItems : Option String := none
  counterAxisAlignItems : Option String := none
  itemSpacing : Option Float := none
  counterAxisSpacing : Option Float := none
  paddingTop : Option Float := none
  paddingRight : Option Float := none
  paddingBottom : Option Float := none
  paddingLeft : Option Float := none
  layoutPositioning : Option String := none
  layoutGrow : Option Float := none
  layoutAlign : Option String := none
  /-- The main component of an instance. -/
  componentName : Option String := none
  componentProperties : Dict ComponentProperty := []
  /-- Why the layer was recovered and not read. -/
  fault : Option String := none

namespace Layer

def isText (l : Layer) : Bool := l.kind == "TEXT"

def isAutoLayout (l : Layer) : Bool :=
  l.layoutMode == some "HORIZONTAL" || l.layoutMode == some "VERTICAL"

def isAbsolute (l : Layer) : Bool := l.layoutPositioning == some "ABSOLUTE"

def visibleFills (l : Layer) : List Paint := l.fills.filter (·.visible)

def imageFill? (l : Layer) : Option Paint := l.visibleFills.find? (·.kind == "IMAGE")

mutual

/-- The characters of the first text layer that is shown; below a text layer there is no search. -/
def firstText : Layer → Option String
  | { kind, characters, children, .. } =>
    if kind == "TEXT" then characters else firstTextOf children

def firstTextOf : List Layer → Option String
  | [] => none
  | l :: rest => if l.visible then (firstText l).or (firstTextOf rest) else firstTextOf rest

end

end Layer
end DesignMarkup
