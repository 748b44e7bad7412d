import DesignMarkup.Style.Facet
import DesignMarkup.Style.Keyword
/-!
Styles: CSS-like properties in eight facets, and other keys in `extra`. `prune` drops what a browser
assumes anyway; `normalizeBackground` keeps a lone colour in `background` and the colour under an
image in `backgroundColor`.
-/
namespace DesignMarkup

inductive Radius where
  | px (value : Float)
  | percent (text : String)

inductive LineHeight where
  | px (value : Float)
  | normal

structure LayoutStyle where
  display : Option Display := none
  position : Option Position := none
  top : Option Float := none
  right : Option Float := none
  bottom : Option Float := none
  left : Option Float := none

structure BoxStyle where
  boxSizing : Option BoxSizing := none
  width : Option Float := none
  height : Option Float := none
  minWidth : Option Float := none
  minHeight : Option Float := none
  maxHeight : Option Float := none
  maxWidth : Option Float := none
  paddingTop : Option Float := none
  paddingRight : Option Float := none
  paddingBottom : Option Float := none
  paddingLeft : Option Float := none
  marginTop : Option Float := none
  marginRight : Option Float := none
  marginBottom : Option Float := none
  marginLeft : Option Float := none
  borderTopWidth : Option Float := none
  borderRightWidth : Option Float := none
  borderLeftWidth : Option Float := none
  borderBottomWidth : Option Float := none
  borderLeftColor : Option String := none
  borderRightColor : Option String := none
  borderTopColor : Option String := none
  borderBottomColor : Option String := none
  borderStyle : Option LineStyle := none
  outlineWidth : Option Float := none
  outlineColor : Option String := none
  outlineStyle : Option LineStyle := none
  borderTopLeftRadius : Option Radius := none
  borderTopRightRadius : Option Radius := none
  borderBottomLeftRadius : Option Radius := none
  borderBottomRightRadius : Option Radius := none
  background : Option String := none
  backgroundImage : Option String := none
  backgroundColor : Option String := none
  backgroundPosition : Option String := none
  backgroundSize : Option String := none
  backgroundRepeat : Option BackgroundRepeat := none
  backgroundClip : Option BackgroundClip := none
  webkitBackgroundClip : Option BackgroundClip := none
  overflow : Option String := none
  overflowX : Option Overflow := none
  overflowY : Option Overflow := none

structure TextStyle where
  fontSize : Option Float := none
  fontFamily : Option String := none
  fontWeight : Option Float := none
  fontStyle : Option FontStyle := none
  lineHeight : Option LineHeight := none
  textOverflow : Option TextOverflow := none
  letterSpacing : Option Float := none
  whiteSpace : Option WhiteSpace := none
  verticalAlign : Option VerticalAlign := none
  textAlign : Option TextAlign := none
  textTransform : Option TextTransform := none
  textDecoration : Option TextDecoration := none
  color : Option String := none
  webkitLineClamp : Option UInt32 := none
  webkitBoxOrient : Option BoxOrient := none

structure FlexStyle where
  flexGrow : Option Float := none
  flexShrink : Option Float := none
  flexBasis : Option Float := none
  flexDirection : Option FlexDirection := none
  flexWrap : Option FlexWrap := none
  justifyContent : Option JustifyContent := none
  alignItems : Option AlignItems := none
  alignSelf : Option AlignSelf := none
  alignContent : Option AlignContent := none
  columnGap : Option Float := none
  rowGap : Option Float := none

structure VisibilityStyle where
  opacity : Option Float := none
  zIndex : Option Int32 := none

structure TransformStyle where
  transform : Option String := none

structure ShadowStyle where
  boxShadow : Option String := none

structure FilterStyle where
  backdropFilter : Option String := none
  filter : Option String := none

structure Style where
  layout : LayoutStyle := {}
  box : BoxStyle := {}
  text : TextStyle := {}
  flex : FlexStyle := {}
  visibility : VisibilityStyle := {}
  transform : TransformStyle := {}
  shadow : ShadowStyle := {}
  filter : FilterStyle := {}
  extra : Dict Json := []

def Radius.ofPercent (x : Float) : Radius := .percent (Decimal.measureText x ++ "%")

def Radius.isZero : Radius → Bool
  | .px x => x == 0.0
  | .percent _ => false

def dropIf {α : Type} [BEq α] (default : α) (slot : Option α) : Option α :=
  slot.filter fun value => !(value == default)

def dropZeroRadius (slot : Option Radius) : Option Radius := slot.filter (!Radius.isZero ·)

def VisibilityStyle.prune (s : VisibilityStyle) : VisibilityStyle :=
  { s with opacity := dropIf 1.0 s.opacity }

def TextStyle.prune (s : TextStyle) : TextStyle :=
  { s with
    fontWeight := dropIf 400.0 s.fontWeight
    fontStyle := dropIf .normal s.fontStyle
    letterSpacing := dropIf 0.0 s.letterSpacing
    whiteSpace := dropIf .normal s.whiteSpace
    textAlign := dropIf .left s.textAlign }

def FlexStyle.prune (s : FlexStyle) : FlexStyle :=
  { s with
    flexGrow := dropIf 0.0 s.flexGrow
    flexDirection := dropIf .row s.flexDirection
    flexWrap := dropIf .nowrap s.flexWrap
    justifyContent := dropIf .flexStart s.justifyContent
    alignSelf := dropIf .auto s.alignSelf
    columnGap := dropIf 0.0 s.columnGap
    rowGap := dropIf 0.0 s.rowGap }

def BoxStyle.prune (s : BoxStyle) : BoxStyle :=
  { s with
    boxSizing := dropIf .contentBox s.boxSizing
    overflow := dropIf "visible" s.overflow
    overflowX := dropIf .visible s.overflowX
    overflowY := dropIf .visible s.overflowY
    backgroundRepeat := dropIf .repeated s.backgroundRepeat
    paddingTop := dropIf 0.0 s.paddingTop
    paddingRight := dropIf 0.0 s.paddingRight
    paddingBottom := dropIf 0.0 s.paddingBottom
    paddingLeft := dropIf 0.0 s.paddingLeft
    marginTop := dropIf 0.0 s.marginTop
    marginRight := dropIf 0.0 s.marginRight
    marginBottom := dropIf 0.0 s.marginBottom
    marginLeft := dropIf 0.0 s.marginLeft
    borderTopLeftRadius := dropZeroRadius s.borderTopLeftRadius
    borderTopRightRadius := dropZeroRadius s.borderTopRightRadius
    borderBottomLeftRadius := dropZeroRadius s.borderBottomLeftRadius
    borderBottomRightRadius := dropZeroRadius s.borderBottomRightRadius }

def TransformStyle.prune (s : TransformStyle) : TransformStyle :=
  { transform := dropIf "none" s.transform }

def Style.prune (s : Style) : Style :=
  { s with
    box := s.box.prune
    text := s.text.prune
    flex := s.flex.prune
    visibility := s.visibility.prune
    transform := s.transform.prune }

inductive ColorSlot where
  | background
  | backgroundColor
deriving DecidableEq, Repr

instance : Keyword ColorSlot :=
  ⟨[("background", .background), ("backgroundColor", .backgroundColor)]⟩

/-- Two colours met in one place; the one in `discarded` was dropped. -/
structure BackgroundCollision where
  kept : ColorSlot
  discarded : ColorSlot
  value : String
deriving DecidableEq, Repr

def BoxStyle.normalizeBackground (s : BoxStyle) : BoxStyle × Option BackgroundCollision :=
  match s.backgroundImage, s.background, s.backgroundColor with
  | some _, none, _ => (s, none)
  | some _, some color, none => ({ s with background := none, backgroundColor := some color }, none)
  | some _, some color, some kept =>
    ({ s with background := none },
      if kept = color then none else some ⟨.backgroundColor, .background, color⟩)
  | none, _, none => (s, none)
  | none, none, some color => ({ s with background := some color, backgroundColor := none }, none)
  | none, some kept, some color =>
    ({ s with backgroundColor := none },
      if kept = color then none else some ⟨.background, .backgroundColor, color⟩)

def Style.normalizeBackground (s : Style) : Style × Option BackgroundCollision :=
  ({ s with box := s.box.normalizeBackground.1 }, s.box.normalizeBackground.2)

inductive StyleKeyFault where
  | reserved (key : String) (facet : Facet)
  | empty
deriving DecidableEq, Repr

def StyleKeyFault.message : StyleKeyFault → String
  | reserved key facet =>
    "Style key '" ++ key ++ "' belongs to the " ++ facet.title ++
      " facet; set it through the facet"
  | empty => "Style key must not be empty"

def Style.insertExtra (s : Style) (key : String) (value : Json) : Except StyleKeyFault Style :=
  if key = "" then .error .empty
  else match facetOf? key with
    | some facet => .error (.reserved key facet)
    | none => .ok { s with extra := s.extra.insert key value }

end DesignMarkup
