import DesignMarkup.Json.Shape
/-!
The keyword values of style properties.
-/
namespace DesignMarkup

inductive Display where
  | flex
  | inlineFlex
  | webkitBox
deriving DecidableEq, Repr

instance : Keyword Display := ⟨[("flex", .flex), ("inline-flex", .inlineFlex),
  ("-webkit-box", .webkitBox)]⟩

inductive Position where
  | relative
  | absolute
deriving DecidableEq, Repr

instance : Keyword Position := ⟨[("relative", .relative), ("absolute", .absolute)]⟩

inductive BoxSizing where
  | contentBox
  | borderBox
deriving DecidableEq, Repr

instance : Keyword BoxSizing := ⟨[("content-box", .contentBox), ("border-box", .borderBox)]⟩

inductive LineStyle where
  | solid
  | dashed
deriving DecidableEq, Repr

instance : Keyword LineStyle := ⟨[("solid", .solid), ("dashed", .dashed)]⟩

inductive BackgroundRepeat where
  | repeated
  | once
deriving DecidableEq, Repr

instance : Keyword BackgroundRepeat := ⟨[("repeat", .repeated), ("no-repeat", .once)]⟩

inductive BackgroundClip where
  | text
deriving DecidableEq, Repr

instance : Keyword BackgroundClip := ⟨[("text", .text)]⟩

inductive Overflow where
  | visible
  | hidden
  | scroll
  | auto
deriving DecidableEq, Repr

instance : Keyword Overflow := ⟨[("visible", .visible), ("hidden", .hidden), ("scroll", .scroll),
  ("auto", .auto)]⟩

inductive FontStyle where
  | normal
  | italic
deriving DecidableEq, Repr

instance : Keyword FontStyle := ⟨[("normal", .normal), ("italic", .italic)]⟩

inductive TextOverflow where
  | ellipsis
deriving DecidableEq, Repr

instance : Keyword TextOverflow := ⟨[("ellipsis", .ellipsis)]⟩

inductive WhiteSpace where
  | normal
  | nowrap
deriving DecidableEq, Repr

instance : Keyword WhiteSpace := ⟨[("normal", .normal), ("nowrap", .nowrap)]⟩

inductive VerticalAlign where
  | top
  | middle
  | bottom
deriving DecidableEq, Repr

instance : Keyword VerticalAlign := ⟨[("top", .top), ("middle", .middle), ("bottom", .bottom)]⟩

inductive TextAlign where
  | left
  | right
  | center
  | justify
deriving DecidableEq, Repr

instance : Keyword TextAlign := ⟨[("left", .left), ("right", .right), ("center", .center),
  ("justify", .justify)]⟩

inductive TextTransform where
  | uppercase
  | lowercase
deriving DecidableEq, Repr

instance : Keyword TextTransform := ⟨[("UPPERCASE", .uppercase), ("LOWERCASE", .lowercase)]⟩

inductive TextDecoration where
  | lineThrough
  | underline
deriving DecidableEq, Repr

instance : Keyword TextDecoration := ⟨[("line-through", .lineThrough), ("underline", .underline)]⟩

inductive BoxOrient where
  | vertical
deriving DecidableEq, Repr

instance : Keyword BoxOrient := ⟨[("vertical", .vertical)]⟩

inductive FlexDirection where
  | row
  | column
deriving DecidableEq, Repr

instance : Keyword FlexDirection := ⟨[("row", .row), ("column", .column)]⟩

inductive FlexWrap where
  | nowrap
  | wrap
deriving DecidableEq, Repr

instance : Keyword FlexWrap := ⟨[("nowrap", .nowrap), ("wrap", .wrap)]⟩

inductive JustifyContent where
  | flexStart
  | flexEnd
  | center
  | spaceBetween
deriving DecidableEq, Repr

instance : Keyword JustifyContent := ⟨[("flex-start", .flexStart), ("flex-end", .flexEnd),
  ("center", .center), ("space-between", .spaceBetween)]⟩

inductive AlignItems where
  | flexStart
  | flexEnd
  | center
  | baseline
deriving DecidableEq, Repr

instance : Keyword AlignItems := ⟨[("flex-start", .flexStart), ("flex-end", .flexEnd),
  ("center", .center), ("baseline", .baseline)]⟩

inductive AlignSelf where
  | auto
  | flexStart
  | flexEnd
  | center
  | baseline
  | stretch
deriving DecidableEq, Repr

instance : Keyword AlignSelf := ⟨[("auto", .auto), ("flex-start", .flexStart),
  ("flex-end", .flexEnd), ("center", .center), ("baseline", .baseline), ("stretch", .stretch)]⟩

inductive AlignContent where
  | flexStart
  | flexEnd
  | center
  | spaceBetween
  | stretch
deriving DecidableEq, Repr

instance : Keyword AlignContent := ⟨[("flex-start", .flexStart), ("flex-end", .flexEnd),
  ("center", .center), ("space-between", .spaceBetween), ("stretch", .stretch)]⟩

end DesignMarkup
