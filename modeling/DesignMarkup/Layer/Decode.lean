import DesignMarkup.Json.Shape
import DesignMarkup.Layer.Basic
/-!
Layers from JSON. A child that does not fit the schema is recovered; only the root can be refused.
-/
namespace DesignMarkup
open Json Decode Shape

def Color.decode : Decoder Color :=
  Shape.decode "RawColor" <|
    Color.mk <$> required "r" float <*> required "g" float <*> required "b" float <*>
      withDefault "a" 1.0 float

def Bounds.decode : Decoder Bounds :=
  Shape.decode "RawBoundingBox" <|
    Bounds.mk <$> required "x" float <*> required "y" float <*> required "width" float <*>
      required "height" float

def StrokeWeights.decode : Decoder StrokeWeights :=
  Shape.decode "RawStrokeWeights" <|
    StrokeWeights.mk <$> required "top" float <*> required "right" float <*>
      required "bottom" float <*> required "left" float

def Typography.decode : Decoder Typography :=
  Shape.decode "RawTypeStyle" <|
    Typography.mk <$> optional "fontFamily" string <*> optional "fontSize" float <*>
      optional "fontWeight" float <*> withDefault "italic" false bool <*>
      optional "lineHeightPx" float <*> optional "lineHeightUnit" string <*>
      optional "letterSpacing" float <*> optional "textAlignHorizontal" string <*>
      optional "textAlignVertical" string <*> optional "textCase" string <*>
      optional "textDecoration" string <*> optional "textTruncation" string <*>
      optional "maxLines" count32

def ColorStop.decode : Decoder ColorStop :=
  Shape.decode "RawColorStop" <|
    ColorStop.mk <$> required "color" Color.decode <*> required "position" float

def Paint.decode : Decoder Paint :=
  Shape.decode "RawPaint" <|
    Paint.mk <$> required "type" string <*> withDefault "visible" true bool <*>
      optional "color" Color.decode <*> optional "opacity" float <*> optional "imageRef" string <*>
      optional "scaleMode" string <*> withDefault "gradientStops" [] (list ColorStop.decode) <*>
      optional "gradientAngle" float

def Offset.decode : Decoder Offset :=
  Shape.decode "RawVector" <| Offset.mk <$> required "x" float <*> required "y" float

def Effect.decode : Decoder Effect :=
  Shape.decode "RawEffect" <|
    Effect.mk <$> required "type" string <*> withDefault "visible" true bool <*>
      optional "color" Color.decode <*> optional "offset" Offset.decode <*>
      withDefault "radius" 0.0 float <*> optional "spread" float

def ComponentProperty.decode : Decoder ComponentProperty :=
  Shape.decode "RawComponentProperty" <|
    ComponentProperty.mk <$> required "type" string <*> required "value" any

def fourNumbers : Decoder (List Float) := fun o v =>
  let expected := "an array of length 4"
  match v with
  | .array items => do
    let numbers ← itemsFrom float o 0 (items.take 4)
    if items.length < 4 then refuse (.wrongLength items.length expected)
    else if 4 < items.length then refuse (.wrongLength items.length "fewer elements in array")
    else .ok numbers
  | _ => refuse (.wrongType v expected)

/-- Without children, null may be written for their list. -/
def nullableList {α : Type} (decode : Decoder α) : Decoder (List α) := fun o v =>
  (nullable (list decode) o v).map (·.getD [])

namespace Layer

def shape (child : Decoder Layer) : Shape Layer :=
  mk <$> required "id" string <*> withDefault "name" "" string <*> required "type" string <*>
    withDefault "visible" true bool <*> withDefault "children" [] (nullableList child) <*>
    optional "absoluteBoundingBox" Bounds.decode <*> optional "characters" string <*>
    optional "style" Typography.decode <*> withDefault "fills" [] (list Paint.decode) <*>
    withDefault "strokes" [] (list Paint.decode) <*> optional "strokeWeight" float <*>
    optional "individualStrokeWeights" StrokeWeights.decode <*>
    withDefault "strokeDashes" [] (list float) <*> optional "cornerRadius" float <*>
    optional "rectangleCornerRadii" fourNumbers <*>
    withDefault "effects" [] (list Effect.decode) <*> optional "opacity" float <*>
    optional "rotation" float <*> withDefault "clipsContent" false bool <*>
    optional "layoutMode" string <*> optional "layoutWrap" string <*>
    optional "primaryAxisAlignItems" string <*> optional "counterAxisAlignItems" string <*>
    optional "itemSpacing" float <*> optional "counterAxisSpacing" float <*>
    optional "paddingTop" float <*> optional "paddingRight" float <*>
    optional "paddingBottom" float <*> optional "paddingLeft" float <*>
    optional "layoutPositioning" string <*> optional "layoutGrow" float <*>
    optional "layoutAlign" string <*> optional "componentName" string <*>
    withDefault "componentProperties" [] (dict ComponentProperty.decode) <*> pure none

def recovered (v : Json) (fault : String) : Layer :=
  let text (key : String) := ((v.get? key).bind Json.asString?).getD ""
  { id := text "id", name := text "name", kind := text "type",
    visible := ((v.get? "visible").bind Json.asBool?).getD true, fault := some fault }

def orRecovered (v : Json) : Except Refusal Layer → Layer
  | .ok l => l
  | .error e => recovered v e.message

/-- A layer is lower than the value it is read from. -/
def decodeWithin : (height : Nat) → Decoder Layer
  | 0 => fun _ v => refuse (.wrongType v "struct RawNode")
  | n + 1 =>
    Shape.decode "RawNode" (shape fun o v => .ok (orRecovered v (decodeWithin n o v)))

def decode : Decoder Layer := fun o v => decodeWithin v.height o v

end Layer
end DesignMarkup
