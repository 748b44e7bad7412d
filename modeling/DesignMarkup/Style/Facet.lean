import DesignMarkup.Json.Shape
/-!
The eight facets of a style and the keys that each of them owns. No key has two owners.
-/
namespace DesignMarkup

inductive Facet where
  | layout
  | box
  | text
  | flex
  | visibility
  | transform
  | shadow
  | filter
deriving DecidableEq, Repr

instance : Keyword Facet := ⟨[("layout", .layout), ("box", .box), ("text", .text), ("flex", .flex),
  ("visibility", .visibility), ("transform", .transform), ("shadow", .shadow),
  ("filter", .filter)]⟩

namespace Facet

def all : List Facet := [layout, box, text, flex, visibility, transform, shadow, filter]

def title : Facet → String
  | layout => "Layout"
  | box => "Box"
  | text => "Text"
  | flex => "Flex"
  | visibility => "Visibility"
  | transform => "Transform"
  | shadow => "Shadow"
  | filter => "Filter"

def keys : Facet → List String
  | layout => ["display", "position", "top", "right", "bottom", "left"]
  | box =>
    ["boxSizing", "width", "height", "minWidth", "minHeight", "maxHeight", "maxWidth", "paddingTop",
      "paddingRight", "paddingBottom", "paddingLeft", "marginTop", "marginRight", "marginBottom",
      "marginLeft", "borderTopWidth", "borderRightWidth", "borderLeftWidth", "borderBottomWidth",
      "borderLeftColor", "borderRightColor", "borderTopColor", "borderBottomColor", "borderStyle",
      "outlineWidth", "outlineColor", "outlineStyle", "borderTopLeftRadius", "borderTopRightRadius",
      "borderBottomLeftRadius", "borderBottomRightRadius", "background", "backgroundImage",
      "backgroundColor", "backgroundPosition", "backgroundSize", "backgroundRepeat",
      "backgroundClip", "WebkitBackgroundClip", "overflow", "overflowX", "overflowY"]
  | text =>
    ["fontSize", "fontFamily", "fontWeight", "fontStyle", "lineHeight", "textOverflow",
      "letterSpacing", "whiteSpace", "verticalAlign", "textAlign", "textTransform",
      "textDecoration", "color", "WebkitLineClamp", "WebkitBoxOrient"]
  | flex =>
    ["flexGrow", "flexShrink", "flexBasis", "flexDirection", "flexWrap", "justifyContent",
      "alignItems", "alignSelf", "alignContent", "columnGap", "rowGap"]
  | visibility => ["opacity", "zIndex"]
  | transform => ["transform"]
  | shadow => ["boxShadow"]
  | filter => ["backdropFilter", "filter"]

end Facet

def facetOf? (key : String) : Option Facet := Facet.all.find? fun f => f.keys.contains key

end DesignMarkup
