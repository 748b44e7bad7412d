import DesignMarkup.Layer.Basic
import DesignMarkup.Style.Basic
import DesignMarkup.Text.Basic
/-!
The style of a layer: each facet is computed on its own from the layer and the frame it is placed
in, then values that a browser assumes anyway are dropped and the background is put in order.
-/
namespace DesignMarkup
open Decimal (round2 measureText)

structure ParentFrame where
  bounds : Bounds
  autoLayout : Bool

def ParentFrame.of? (l : Layer) : Option ParentFrame := l.bounds.map (⟨·, l.isAutoLayout⟩)

/-- How a layer is emitted. The paint of an asset is its image and no background. -/
inductive StyleTarget where
  | container
  | text
  | asset
deriving DecidableEq, Repr

instance : Keyword StyleTarget := ⟨[("container", .container), ("text", .text), ("asset", .asset)]⟩

namespace Paint

def isGradient (p : Paint) : Bool := Text.startsWith p.kind "GRADIENT_"

def css? (p : Paint) : Option String := p.color.map (·.css p.opacity)

def stopsText (p : Paint) : String :=
  ", ".intercalate (p.gradientStops.map fun stop =>
    stop.color.css p.opacity ++ " " ++ measureText (stop.position * 100.0) ++ "%")

def gradient? (p : Paint) : Option String :=
  if p.gradientStops.isEmpty then none
  else if p.kind ∈ ["GRADIENT_RADIAL", "GRADIENT_DIAMOND"] then
    some ("radial-gradient(" ++ p.stopsText ++ ")")
  else if p.kind = "GRADIENT_ANGULAR" then some ("conic-gradient(" ++ p.stopsText ++ ")")
  else
    some ("linear-gradient(" ++ measureText (p.gradientAngle.getD 180.0) ++ "deg, " ++
      p.stopsText ++ ")")

def imageLayer? (p : Paint) : Option String :=
  if p.kind = "IMAGE" then p.imageRef.map fun url => "url(" ++ url ++ ")"
  else if p.isGradient then p.gradient?
  else none

end Paint

namespace Layer

def truncates (l : Layer) : Bool :=
  l.typography.any fun t => t.textTruncation == some "ENDING"

def clampLines? (l : Layer) : Option UInt32 :=
  (l.typography.bind (·.maxLines)).filter fun n => 1 < n && l.truncates

def isStretched (l : Layer) : Bool := l.layoutAlign == some "STRETCH"

def placesChildren (l : Layer) : Bool :=
  !l.children.isEmpty && (!l.isAutoLayout || l.children.any isAbsolute)

def layoutStyle (l : Layer) (parent : Option ParentFrame) : LayoutStyle :=
  let display : Option Display :=
    if l.isText && l.clampLines?.isSome then some .webkitBox
    else if l.isAutoLayout then some .flex
    else none
  let absolute := parent.any fun p => !p.autoLayout || l.isAbsolute
  match absolute, parent, l.bounds with
  | true, some p, some b =>
    { display, position := some .absolute, left := some (round2 (b.x - p.bounds.x)),
      top := some (round2 (b.y - p.bounds.y)) }
  | _, _, _ => { display, position := if l.placesChildren then some .relative else none }

def border? (l : Layer) : Option (StrokeWeights × String) := do
  let stroke ← l.strokes.find? fun p => p.visible && p.kind == "SOLID"
  let color ← stroke.css?
  let weight := l.strokeWeight.getD 1.0
  let w := l.strokeWeights.getD ⟨weight, weight, weight, weight⟩
  if [w.top, w.right, w.bottom, w.left].all (· ≤ 0.0) then none else some (w, color)

def withBorder (l : Layer) (s : BoxStyle) : BoxStyle :=
  match l.border? with
  | none => s
  | some (w, color) =>
    let width (x : Float) : Option Float := if 0.0 < x then some (round2 x) else none
    let paint (x : Float) : Option String := if 0.0 < x then some color else none
    { s with
      borderTopWidth := width w.top, borderTopColor := paint w.top
      borderRightWidth := width w.right, borderRightColor := paint w.right
      borderBottomWidth := width w.bottom, borderBottomColor := paint w.bottom
      borderLeftWidth := width w.left, borderLeftColor := paint w.left
      borderStyle := some (if l.strokeDashes.isEmpty then .solid else .dashed) }

def radii? (l : Layer) : Option (List Radius) :=
  if l.kind = "ELLIPSE" then some (List.replicate 4 (Radius.ofPercent 50.0))
  else (l.cornerRadii.or (l.cornerRadius.map (List.replicate 4))).map
    (List.map fun r => .px (round2 r))

def withRadius (l : Layer) (s : BoxStyle) : BoxStyle :=
  match l.radii? with
  | some [topLeft, topRight, bottomRight, bottomLeft] =>
    { s with
      borderTopLeftRadius := some topLeft, borderTopRightRadius := some topRight
      borderBottomRightRadius := some bottomRight, borderBottomLeftRadius := some bottomLeft }
  | _ => s

/-- Paints are listed from the bottom up, the layers of a background from the top down. -/
def paintsFromTop (l : Layer) : List Paint := l.visibleFills.reverse

def backgroundColor? (l : Layer) : Option String :=
  l.paintsFromTop.findSome? fun p => if p.kind = "SOLID" then p.css? else none

def imageSize (mode : String) : String :=
  if mode = "FIT" then "contain" else if mode = "TILE" then "auto" else "cover"

def withImageSize (l : Layer) (s : BoxStyle) : BoxStyle :=
  let mode := (l.imageFill?.bind (·.scaleMode)).getD "FILL"
  { s with
    backgroundSize := some (imageSize mode)
    backgroundPosition := some "center"
    backgroundRepeat := some (if mode = "TILE" then .repeated else .once) }

def withBackground (l : Layer) (s : BoxStyle) : BoxStyle :=
  let layers := l.paintsFromTop.filterMap Paint.imageLayer?
  let hasImage := l.visibleFills.any fun p => p.kind == "IMAGE" && p.imageRef.isSome
  if layers.isEmpty then { s with background := l.backgroundColor? }
  else
    let s := { s with
      backgroundImage := some (", ".intercalate layers), backgroundColor := l.backgroundColor? }
    if hasImage then l.withImageSize s else s

def withTextGradient (l : Layer) (s : BoxStyle) : BoxStyle :=
  match ((l.visibleFills.filter Paint.isGradient).getLast?).bind Paint.gradient? with
  | none => s
  | some image =>
    { s with
      backgroundImage := some image, backgroundClip := some .text
      webkitBackgroundClip := some .text }

def withPadding (l : Layer) (s : BoxStyle) : BoxStyle :=
  if l.isAutoLayout then
    { s with
      paddingTop := l.paddingTop, paddingRight := l.paddingRight
      paddingBottom := l.paddingBottom, paddingLeft := l.paddingLeft }
  else s

/-- A stretched child of an auto layout takes its height from there. -/
def withSize (l : Layer) (parent : Option ParentFrame) (target : StyleTarget) (s : BoxStyle) :
    BoxStyle :=
  match l.bounds with
  | some b =>
    if target = .text then s
    else
      let stretched := parent.any (·.autoLayout) && l.isStretched
      { s with
        width := some (round2 b.width)
        height := if stretched then none else some (round2 b.height) }
  | none => s

def withBoxSizing (s : BoxStyle) : BoxStyle :=
  let hasPadding := [s.paddingTop, s.paddingRight, s.paddingBottom, s.paddingLeft].any
    fun padding => padding.any (0.0 < ·)
  if hasPadding || s.borderStyle.isSome then { s with boxSizing := some .borderBox } else s

def withPaint (l : Layer) (target : StyleTarget) (s : BoxStyle) : BoxStyle :=
  match target with
  | .container => l.withBackground s
  | .text => l.withTextGradient s
  | .asset => s

def withOverflow (l : Layer) (s : BoxStyle) : BoxStyle :=
  if (l.clipsContent && !l.children.isEmpty) || (l.isText && l.truncates) then
    { s with overflow := some "hidden" }
  else s

def boxStyle (l : Layer) (parent : Option ParentFrame) (target : StyleTarget) : BoxStyle :=
  l.withOverflow <| l.withPaint target <| withBoxSizing <| l.withRadius <| l.withBorder <|
    l.withPadding <| l.withSize parent target {}

def lineHeight? (t : Typography) : Option LineHeight :=
  if t.lineHeightUnit = some "INTRINSIC_%" then some .normal
  else t.lineHeightPx.map fun x => .px (round2 x)

def textAlign? : Option String → Option TextAlign
  | some "RIGHT" => some .right
  | some "CENTER" => some .center
  | some "JUSTIFIED" => some .justify
  | _ => none

def verticalAlign? : Option String → Option VerticalAlign
  | some "CENTER" => some .middle
  | some "BOTTOM" => some .bottom
  | _ => none

def textTransform? : Option String → Option TextTransform
  | some "UPPER" => some .uppercase
  | some "LOWER" => some .lowercase
  | _ => none

def textDecoration? : Option String → Option TextDecoration
  | some "STRIKETHROUGH" => some .lineThrough
  | some "UNDERLINE" => some .underline
  | _ => none

/-- A gradient shows through transparent text. -/
def textColor? (l : Layer) : Option String :=
  if l.visibleFills.any Paint.isGradient then some "transparent"
  else ((l.visibleFills.filter (·.kind == "SOLID")).getLast?).bind Paint.css?

def withTruncation (l : Layer) (s : TextStyle) : TextStyle :=
  if !l.truncates then s
  else
    let s := { s with textOverflow := some .ellipsis }
    match l.clampLines? with
    | some lines => { s with webkitLineClamp := some lines, webkitBoxOrient := some .vertical }
    | none => { s with whiteSpace := some .nowrap }

def ofTypography (t : Typography) : TextStyle where
  fontSize := t.fontSize
  fontFamily := t.fontFamily
  fontWeight := t.fontWeight
  fontStyle := if t.italic then some .italic else none
  lineHeight := lineHeight? t
  letterSpacing := t.letterSpacing.map round2
  textAlign := textAlign? t.textAlignHorizontal
  verticalAlign := verticalAlign? t.textAlignVertical
  textTransform := textTransform? t.textCase
  textDecoration := textDecoration? t.textDecoration

def textStyle (l : Layer) (target : StyleTarget) : TextStyle :=
  if target = .text then
    let s := (l.typography.map fun t => l.withTruncation (ofTypography t)).getD {}
    { s with color := l.textColor? }
  else {}

def justifyContent? : Option String → Option JustifyContent
  | some "MAX" => some .flexEnd
  | some "CENTER" => some .center
  | some "SPACE_BETWEEN" => some .spaceBetween
  | _ => none

def alignItems : Option String → AlignItems
  | some "MAX" => .flexEnd
  | some "CENTER" => .center
  | some "BASELINE" => .baseline
  | _ => .flexStart

/-- The main gap goes along the direction, the cross gap between wrapped lines. -/
def containerStyle (l : Layer) : FlexStyle :=
  let vertical := l.layoutMode == some "VERTICAL"
  let wraps := l.layoutWrap == some "WRAP"
  let justify := justifyContent? l.primaryAxisAlignItems
  let mainGap := if justify = some .spaceBetween then none else l.itemSpacing.map round2
  let crossGap := if wraps then l.counterAxisSpacing.map round2 else none
  { flexDirection := some (if vertical then .column else .row)
    flexWrap := if wraps then some .wrap else none
    justifyContent := justify
    alignItems := some (alignItems l.counterAxisAlignItems)
    rowGap := if vertical then mainGap else crossGap
    columnGap := if vertical then crossGap else mainGap }

def flexStyle (l : Layer) (parent : Option ParentFrame) : FlexStyle :=
  let s := if l.isAutoLayout then l.containerStyle else {}
  if parent.any (·.autoLayout) && !l.isAbsolute then
    let grows := 0.0 < l.layoutGrow.getD 0.0
    { s with
      flexGrow := if grows then some 1.0 else none
      flexShrink := if grows then none else some 0.0
      alignSelf := if l.isStretched then some .stretch else none }
  else s

def epsilon : Float := Float.ofScientific 2220446049250313 true 31

def transformStyle (l : Layer) : TransformStyle where
  transform :=
    (l.rotation.filter (epsilon < ·.abs)).map fun x => "rotate(" ++ measureText (-x) ++ "deg)"

end Layer

namespace Effect

def shadowColor (e : Effect) : String := (e.color.getD ⟨0.0, 0.0, 0.0, 0.25⟩).css none

def shadow? (e : Effect) : Option String :=
  let lengths :=
    [e.offset.elim 0.0 Offset.x, e.offset.elim 0.0 Offset.y, e.radius, e.spread.getD 0.0]
  let text := " ".intercalate (lengths.map (measureText · ++ "px")) ++ " " ++ e.shadowColor
  if e.kind = "DROP_SHADOW" then some text
  else if e.kind = "INNER_SHADOW" then some ("inset " ++ text)
  else none

end Effect

namespace Layer

def visibleEffects (l : Layer) : List Effect := l.effects.filter (·.visible)

def shadowStyle (l : Layer) (target : StyleTarget) : ShadowStyle :=
  let shadows := l.visibleEffects.filterMap Effect.shadow?
  if target = .text ∨ shadows.isEmpty then {} else { boxShadow := some (", ".intercalate shadows) }

def blur? (l : Layer) (kind : String) : Option String :=
  (l.visibleEffects.find? (·.kind == kind)).map fun (e : Effect) =>
    "blur(" ++ measureText e.radius ++ "px)"

def filterStyle (l : Layer) : FilterStyle :=
  { filter := l.blur? "LAYER_BLUR", backdropFilter := l.blur? "BACKGROUND_BLUR" }

def fullStyle (l : Layer) (parent : Option ParentFrame) (target : StyleTarget) : Style where
  layout := l.layoutStyle parent
  box := l.boxStyle parent target
  text := l.textStyle target
  flex := l.flexStyle parent
  visibility := { opacity := l.opacity.map round2 }
  transform := l.transformStyle
  shadow := l.shadowStyle target
  filter := l.filterStyle

/-- The style, with the colour that two paints competed for, if they did. -/
def style (l : Layer) (parent : Option ParentFrame) (target : StyleTarget) :
    Style × Option BackgroundCollision :=
  (l.fullStyle parent target).prune.normalizeBackground

end Layer
end DesignMarkup
