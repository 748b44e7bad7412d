import DesignMarkup.Layer.Basic
/-!
Layers as JSON. Every field is written, null for one that is not there; a `fault` is not written.
-/
namespace DesignMarkup
open Json

def maybe {α : Type} (encode : α → Json) : Option α → Json
  | some a => encode a
  | none => .null

def encodeList {α : Type} (encode : α → Json) (items : List α) : Json := .array (items.map encode)

def Color.encode (c : Color) : Json :=
  .object [("r", .float c.r), ("g", .float c.g), ("b", .float c.b), ("a", .float c.a)]

def Bounds.encode (b : Bounds) : Json :=
  .object [("x", .float b.x), ("y", .float b.y), ("width", .float b.width),
    ("height", .float b.height)]

def StrokeWeights.encode (w : StrokeWeights) : Json :=
  .object [("top", .float w.top), ("right", .float w.right), ("bottom", .float w.bottom),
    ("left", .float w.left)]

def Typography.encode (t : Typography) : Json :=
  .object [("fontFamily", maybe .string t.fontFamily), ("fontSize", maybe .float t.fontSize),
    ("fontWeight", maybe .float t.fontWeight), ("italic", .bool t.italic),
    ("lineHeightPx", maybe .float t.lineHeightPx),
    ("lineHeightUnit", maybe .string t.lineHeightUnit),
    ("letterSpacing", maybe .float t.letterSpacing),
    ("textAlignHorizontal", maybe .string t.textAlignHorizontal),
    ("textAlignVertical", maybe .string t.textAlignVertical),
    ("textCase", maybe .string t.textCase), ("textDecoration", maybe .string t.textDecoration),
    ("textTruncation", maybe .string t.textTruncation),
    ("maxLines", maybe (fun n => whole n.toNat) t.maxLines)]

def ColorStop.encode (s : ColorStop) : Json :=
  .object [("color", s.color.encode), ("position", .float s.position)]

def Paint.encode (p : Paint) : Json :=
  .object [("type", .string p.kind), ("visible", .bool p.visible),
    ("color", maybe Color.encode p.color), ("opacity", maybe .float p.opacity),
    ("imageRef", maybe .string p.imageRef), ("scaleMode", maybe .string p.scaleMode),
    ("gradientStops", encodeList ColorStop.encode p.gradientStops),
    ("gradientAngle", maybe .float p.gradientAngle)]

def Offset.encode (v : Offset) : Json := .object [("x", .float v.x), ("y", .float v.y)]

def Effect.encode (e : Effect) : Json :=
  .object [("type", .string e.kind), ("visible", .bool e.visible),
    ("color", maybe Color.encode e.color), ("offset", maybe Offset.encode e.offset),
    ("radius", .float e.radius), ("spread", maybe .float e.spread)]

def ComponentProperty.encode (p : ComponentProperty) : Json :=
  .object [("type", .string p.kind), ("value", p.value)]

namespace Layer

mutual

def encode : Layer → Json
  | { id, name, kind, visible, children, bounds, characters, typography, fills, strokes,
      strokeWeight, strokeWeights, strokeDashes, cornerRadius, cornerRadii, effects, opacity,
      rotation, clipsContent, layoutMode, layoutWrap, primaryAxisAlignItems, counterAxisAlignItems,
      itemSpacing, counterAxisSpacing, paddingTop, paddingRight, paddingBottom, paddingLeft,
      layoutPositioning, layoutGrow, layoutAlign, componentName, componentProperties, .. } =>
    .object [("id", .string id), ("name", .string name), ("type", .string kind),
      ("visible", .bool visible), ("children", .array (encodeAll children)),
      ("absoluteBoundingBox", maybe Bounds.encode bounds),
      ("characters", maybe .string characters), ("style", maybe Typography.encode typography),
      ("fills", encodeList Paint.encode fills), ("strokes", encodeList Paint.encode strokes),
      ("strokeWeight", maybe .float strokeWeight),
      ("individualStrokeWeights", maybe StrokeWeights.encode strokeWeights),
      ("strokeDashes", encodeList .float strokeDashes),
      ("cornerRadius", maybe .float cornerRadius),
      ("rectangleCornerRadii", maybe (encodeList .float) cornerRadii),
      ("effects", encodeList Effect.encode effects), ("opacity", maybe .float opacity),
      ("rotation", maybe .float rotation), ("clipsContent", .bool clipsContent),
      ("layoutMode", maybe .string layoutMode), ("layoutWrap", maybe .string layoutWrap),
      ("primaryAxisAlignItems", maybe .string primaryAxisAlignItems),
      ("counterAxisAlignItems", maybe .string counterAxisAlignItems),
      ("itemSpacing", maybe .float itemSpacing),
      ("counterAxisSpacing", maybe .float counterAxisSpacing),
      ("paddingTop", maybe .float paddingTop), ("paddingRight", maybe .float paddingRight),
      ("paddingBottom", maybe .float paddingBottom), ("paddingLeft", maybe .float paddingLeft),
      ("layoutPositioning", maybe .string layoutPositioning),
      ("layoutGrow", maybe .float layoutGrow), ("layoutAlign", maybe .string layoutAlign),
      ("componentName", maybe .string componentName),
      ("componentProperties", .object (componentProperties.mapValues ComponentProperty.encode))]

def encodeAll : List Layer → List Json
  | [] => []
  | l :: rest => encode l :: encodeAll rest

end

end Layer
end DesignMarkup
