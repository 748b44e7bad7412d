import DesignMarkup.Style.Basic
/-!
Styles as JSON: one flat object of the set properties of all facets, followed by the other keys.
Reading gives each facet the keys of its shape, facet by facet, and leaves the rest to `extra`.
-/
namespace DesignMarkup
open Json Decode Shape

def Radius.encode : Radius → Json
  | .px x => number x
  | .percent text => .string text

def LineHeight.encode : LineHeight → Json
  | .px x => number x
  | .normal => .string "normal"

def Radius.decode : Decoder Radius := fun o v =>
  match v with
  | .string text => .ok (.percent text)
  | _ =>
    match float o v with
    | .ok x => .ok (.px x)
    | .error _ => refuse (.noForm "Radius")

def LineHeight.decode : Decoder LineHeight := fun o v =>
  match float o v, keyword [("normal", LineHeight.normal)] .direct v with
  | .ok x, _ => .ok (.px x)
  | _, .ok h => .ok h
  | _, _ => refuse (.noForm "LineHeight")

namespace LayoutStyle

def entries (s : LayoutStyle) : List (String × Json) :=
  entry? "display" (s.display.map Keyword.encode) ++
    entry? "position" (s.position.map Keyword.encode) ++
    entry? "top" (s.top.map number) ++
    entry? "right" (s.right.map number) ++
    entry? "bottom" (s.bottom.map number) ++
    entry? "left" (s.left.map number)

def shape : Shape LayoutStyle :=
  mk <$> optional "display" Keyword.decode <*> optional "position" Keyword.decode <*>
    optional "top" float <*> optional "right" float <*> optional "bottom" float <*>
    optional "left" float

end LayoutStyle

namespace BoxStyle

def entries (s : BoxStyle) : List (String × Json) :=
  entry? "boxSizing" (s.boxSizing.map Keyword.encode) ++
    entry? "width" (s.width.map number) ++
    entry? "height" (s.height.map number) ++
    entry? "minWidth" (s.minWidth.map number) ++
    entry? "minHeight" (s.minHeight.map number) ++
    entry? "maxHeight" (s.maxHeight.map number) ++
    entry? "maxWidth" (s.maxWidth.map number) ++
    entry? "paddingTop" (s.paddingTop.map number) ++
    entry? "paddingRight" (s.paddingRight.map number) ++
    entry? "paddingBottom" (s.paddingBottom.map number) ++
    entry? "paddingLeft" (s.paddingLeft.map number) ++
    entry? "marginTop" (s.marginTop.map number) ++
    entry? "marginRight" (s.marginRight.map number) ++
    entry? "marginBottom" (s.marginBottom.map number) ++
    entry? "marginLeft" (s.marginLeft.map number) ++
    entry? "borderTopWidth" (s.borderTopWidth.map number) ++
    entry? "borderRightWidth" (s.borderRightWidth.map number) ++
    entry? "borderLeftWidth" (s.borderLeftWidth.map number) ++
    entry? "borderBottomWidth" (s.borderBottomWidth.map number) ++
    entry? "borderLeftColor" (s.borderLeftColor.map .string) ++
    entry? "borderRightColor" (s.borderRightColor.map .string) ++
    entry? "borderTopColor" (s.borderTopColor.map .string) ++
    entry? "borderBottomColor" (s.borderBottomColor.map .string) ++
    entry? "borderStyle" (s.borderStyle.map Keyword.encode) ++
    entry? "outlineWidth" (s.outlineWidth.map number) ++
    entry? "outlineColor" (s.outlineColor.map .string) ++
    entry? "outlineStyle" (s.outlineStyle.map Keyword.encode) ++
    entry? "borderTopLeftRadius" (s.borderTopLeftRadius.map Radius.encode) ++
    entry? "borderTopRightRadius" (s.borderTopRightRadius.map Radius.encode) ++
    entry? "borderBottomLeftRadius" (s.borderBottomLeftRadius.map Radius.encode) ++
    entry? "borderBottomRightRadius" (s.borderBottomRightRadius.map Radius.encode) ++
    entry? "background" (s.background.map .string) ++
    entry? "backgroundImage" (s.backgroundImage.map .string) ++
    entry? "backgroundColor" (s.backgroundColor.map .string) ++
    entry? "backgroundPosition" (s.backgroundPosition.map .string) ++
    entry? "backgroundSize" (s.backgroundSize.map .string) ++
    entry? "backgroundRepeat" (s.backgroundRepeat.map Keyword.encode) ++
    entry? "backgroundClip" (s.backgroundClip.map Keyword.encode) ++
    entry? "WebkitBackgroundClip" (s.webkitBackgroundClip.map Keyword.encode) ++
    entry? "overflow" (s.overflow.map .string) ++
    entry? "overflowX" (s.overflowX.map Keyword.encode) ++
    entry? "overflowY" (s.overflowY.map Keyword.encode)

def shape : Shape BoxStyle :=
  mk <$> optional "boxSizing" Keyword.decode <*> optional "width" float <*>
    optional "height" float <*> optional "minWidth" float <*> optional "minHeight" float <*>
    optional "maxHeight" float <*> optional "maxWidth" float <*> optional "paddingTop" float <*>
    optional "paddingRight" float <*> optional "paddingBottom" float <*>
    optional "paddingLeft" float <*> optional "marginTop" float <*> optional "marginRight" float <*>
    optional "marginBottom" float <*> optional "marginLeft" float <*>
    optional "borderTopWidth" float <*> optional "borderRightWidth" float <*>
    optional "borderLeftWidth" float <*> optional "borderBottomWidth" float <*>
    optional "borderLeftColor" string <*> optional "borderRightColor" string <*>
    optional "borderTopColor" string <*> optional "borderBottomColor" string <*>
    optional "borderStyle" Keyword.decode <*> optional "outlineWidth" float <*>
    optional "outlineColor" string <*> optional "outlineStyle" Keyword.decode <*>
    optional "borderTopLeftRadius" Radius.decode <*>
    optional "borderTopRightRadius" Radius.decode <*>
    optional "borderBottomLeftRadius" Radius.decode <*>
    optional "borderBottomRightRadius" Radius.decode <*> optional "background" string <*>
    optional "backgroundImage" string <*> optional "backgroundColor" string <*>
    optional "backgroundPosition" string <*> optional "backgroundSize" string <*>
    optional "backgroundRepeat" Keyword.decode <*> optional "backgroundClip" Keyword.decode <*>
    optional "WebkitBackgroundClip" Keyword.decode <*> optional "overflow" string <*>
    optional "overflowX" Keyword.decode <*> optional "overflowY" Keyword.decode

end BoxStyle

namespace TextStyle

def entries (s : TextStyle) : List (String × Json) :=
  entry? "fontSize" (s.fontSize.map number) ++
    entry? "fontFamily" (s.fontFamily.map .string) ++
    entry? "fontWeight" (s.fontWeight.map number) ++
    entry? "fontStyle" (s.fontStyle.map Keyword.encode) ++
    entry? "lineHeight" (s.lineHeight.map LineHeight.encode) ++
    entry? "textOverflow" (s.textOverflow.map Keyword.encode) ++
    entry? "letterSpacing" (s.letterSpacing.map number) ++
    entry? "whiteSpace" (s.whiteSpace.map Keyword.encode) ++
    entry? "verticalAlign" (s.verticalAlign.map Keyword.encode) ++
    entry? "textAlign" (s.textAlign.map Keyword.encode) ++
    entry? "textTransform" (s.textTransform.map Keyword.encode) ++
    entry? "textDecoration" (s.textDecoration.map Keyword.encode) ++
    entry? "color" (s.color.map .string) ++
    entry? "WebkitLineClamp" (s.webkitLineClamp.map fun n => whole n.toNat) ++
    entry? "WebkitBoxOrient" (s.webkitBoxOrient.map Keyword.encode)

def shape : Shape TextStyle :=
  mk <$> optional "fontSize" float <*> optional "fontFamily" string <*>
    optional "fontWeight" float <*> optional "fontStyle" Keyword.decode <*>
    optional "lineHeight" LineHeight.decode <*> optional "textOverflow" Keyword.decode <*>
    optional "letterSpacing" float <*> optional "whiteSpace" Keyword.decode <*>
    optional "verticalAlign" Keyword.decode <*> optional "textAlign" Keyword.decode <*>
    optional "textTransform" Keyword.decode <*> optional "textDecoration" Keyword.decode <*>
    optional "color" string <*> optional "WebkitLineClamp" count32 <*>
    optional "WebkitBoxOrient" Keyword.decode

end TextStyle

namespace FlexStyle

def entries (s : FlexStyle) : List (String × Json) :=
  entry? "flexGrow" (s.flexGrow.map number) ++
    entry? "flexShrink" (s.flexShrink.map number) ++
    entry? "flexBasis" (s.flexBasis.map number) ++
    entry? "flexDirection" (s.flexDirection.map Keyword.encode) ++
    entry? "flexWrap" (s.flexWrap.map Keyword.encode) ++
    entry? "justifyContent" (s.justifyContent.map Keyword.encode) ++
    entry? "alignItems" (s.alignItems.map Keyword.encode) ++
    entry? "alignSelf" (s.alignSelf.map Keyword.encode) ++
    entry? "alignContent" (s.alignContent.map Keyword.encode) ++
    entry? "columnGap" (s.columnGap.map number) ++
    entry? "rowGap" (s.rowGap.map number)

def shape : Shape FlexStyle :=
  mk <$> optional "flexGrow" float <*> optional "flexShrink" float <*>
    optional "flexBasis" float <*> optional "flexDirection" Keyword.decode <*>
    optional "flexWrap" Keyword.decode <*> optional "justifyContent" Keyword.decode <*>
    optional "alignItems" Keyword.decode <*> optional "alignSelf" Keyword.decode <*>
    optional "alignContent" Keyword.decode <*> optional "columnGap" float <*>
    optional "rowGap" float

end FlexStyle

namespace VisibilityStyle

def entries (s : VisibilityStyle) : List (String × Json) :=
  entry? "opacity" (s.opacity.map number) ++
    entry? "zIndex" (s.zIndex.map fun n => .int n.toInt)

def shape : Shape VisibilityStyle :=
  mk <$> optional "opacity" float <*> optional "zIndex" int32

end VisibilityStyle

namespace TransformStyle

def entries (s : TransformStyle) : List (String × Json) :=
  entry? "transform" (s.transform.map .string)

def shape : Shape TransformStyle :=
  mk <$> optional "transform" string

end TransformStyle

namespace ShadowStyle

def entries (s : ShadowStyle) : List (String × Json) :=
  entry? "boxShadow" (s.boxShadow.map .string)

def shape : Shape ShadowStyle :=
  mk <$> optional "boxShadow" string

end ShadowStyle

namespace FilterStyle

def entries (s : FilterStyle) : List (String × Json) :=
  entry? "backdropFilter" (s.backdropFilter.map .string) ++
    entry? "filter" (s.filter.map .string)

def shape : Shape FilterStyle :=
  mk <$> optional "backdropFilter" string <*> optional "filter" string

end FilterStyle

namespace Style

def entries (s : Style) : List (String × Json) :=
  s.layout.entries ++ s.box.entries ++ s.text.entries ++ s.flex.entries ++ s.visibility.entries ++
    s.transform.entries ++ s.shadow.entries ++ s.filter.entries ++ s.extra

def encode (s : Style) : Json := .object s.entries

def declarations (s : Style) : Dict Json := Dict.ofList s.entries

def isEmpty (s : Style) : Bool := s.entries.isEmpty

def name : String := "struct TreeNodeStyle"

/-- What the facets read. -/
def ownKeys : List String :=
  LayoutStyle.shape.keys ++ BoxStyle.shape.keys ++ TextStyle.shape.keys ++ FlexStyle.shape.keys ++
    VisibilityStyle.shape.keys ++ TransformStyle.shape.keys ++ ShadowStyle.shape.keys ++
    FilterStyle.shape.keys

def facet {α : Type} (shape : Shape α) (fields : Dict Json) : Except Refusal α :=
  decodeKeyed name shape .buffered fields

def decode : Decoder Style := fun _ v =>
  match v with
  | .object fields => do
    let layout ← facet LayoutStyle.shape fields
    let box ← facet BoxStyle.shape fields
    let text ← facet TextStyle.shape fields
    let flex ← facet FlexStyle.shape fields
    let visibility ← facet VisibilityStyle.shape fields
    let transform ← facet TransformStyle.shape fields
    let shadow ← facet ShadowStyle.shape fields
    let filter ← facet FilterStyle.shape fields
    let extra := List.filter (fun entry => !ownKeys.contains entry.1) fields
    return { layout, box, text, flex, visibility, transform, shadow, filter, extra }
  | _ => refuse (.wrongType v name)

end Style
end DesignMarkup
