import DesignMarkup.Proofs.Style.Background
import Mathlib.Data.List.Pairwise
/-!
The paint of a resolved style: what it says of the background. Only the fills are read for it. Images
and gradients become the sheets of the background image, from the top down; beside them there is one
colour, that of the topmost solid fill that has one.
-/
namespace DesignMarkup

namespace BoxStyle

def paint (s : BoxStyle) : BoxStyle where
  background := s.background
  backgroundImage := s.backgroundImage
  backgroundColor := s.backgroundColor
  backgroundPosition := s.backgroundPosition
  backgroundSize := s.backgroundSize
  backgroundRepeat := s.backgroundRepeat
  backgroundClip := s.backgroundClip
  webkitBackgroundClip := s.webkitBackgroundClip

/-- There is a colour only where one belongs: beneath an image, or alone. -/
structure Settled (s : BoxStyle) : Prop where
  beneath : s.backgroundImage ≠ none → s.background = none
  alone : s.backgroundImage = none → s.backgroundColor = none

theorem Settled.of_paint {s t : BoxStyle} (same : s.paint = t.paint) (h : t.Settled) : s.Settled := by
  have shown : t.paint.Settled := ⟨h.beneath, h.alone⟩
  rw [← same] at shown
  exact ⟨shown.beneath, shown.alone⟩

theorem normalizeBackground_settled {s : BoxStyle} (settled : s.Settled) :
    s.normalizeBackground.1 = s := by
  unfold normalizeBackground
  split
  · rfl
  · rename_i image color _
    have none := settled.beneath (by simp [image])
    simp [color] at none
  · rename_i image color _
    have none := settled.beneath (by simp [image])
    simp [color] at none
  · rfl
  · rename_i image _ color
    have none := settled.alone image
    simp [color] at none
  · rename_i image _ color
    have none := settled.alone image
    simp [color] at none

end BoxStyle

namespace Layer
variable (l : Layer)

theorem withPaint_paint (target : StyleTarget) (s : BoxStyle) :
    (l.withPaint target s).paint = (l.withPaint target s.paint).paint := by
  cases target with
  | container =>
    simp only [withPaint, withBackground]
    split
    · rfl
    · split <;> rfl
  | text =>
    simp only [withPaint, withTextGradient]
    split <;> rfl
  | asset => rfl

theorem boxStyle_paint (parent : Option ParentFrame) (target : StyleTarget) :
    (l.boxStyle parent target).paint = (l.withPaint target {}).paint := by
  have bare : (l.unpainted parent target).paint = {} := by
    calc (l.unpainted parent target).paint
        = (l.unpainted parent target).ground.paint := rfl
      _ = (l.withSize parent target {}).ground.paint := by rw [l.unpainted_ground]
      _ = {} := congrArg BoxStyle.paint (l.withSize_unsized {} parent target)
  have painted : (l.boxStyle parent target).paint =
      (l.withPaint target (l.unpainted parent target)).paint := by
    rw [boxStyle_eq]
    split <;> rfl
  rw [painted, withPaint_paint, bare]

theorem withPaint_settled (target : StyleTarget) : (l.withPaint target {}).Settled := by
  cases target with
  | container =>
    simp only [withPaint, withBackground]
    split
    · exact ⟨by simp, by simp⟩
    · split
      · exact ⟨by simp [withImageSize], by simp [withImageSize]⟩
      · exact ⟨by simp, by simp⟩
  | text =>
    simp only [withPaint, withTextGradient]
    split
    · exact ⟨by simp, by simp⟩
    · exact ⟨by simp, by simp⟩
  | asset => exact ⟨by simp [withPaint], by simp [withPaint]⟩

/-- A colour is put where it belongs at once, so that putting the background in order changes nothing. -/
theorem style_box (parent : Option ParentFrame) (target : StyleTarget) :
    (l.style parent target).1.box = (l.boxStyle parent target).prune := by
  have painted := (l.withPaint_settled target).of_paint (l.boxStyle_paint parent target)
  have settled : (l.boxStyle parent target).prune.Settled := ⟨painted.beneath, painted.alone⟩
  exact BoxStyle.normalizeBackground_settled settled

theorem style_paint (parent : Option ParentFrame) (target : StyleTarget) :
    (l.style parent target).1.box.paint = (l.withPaint target {}).prune.paint := by
  have pruned (s : BoxStyle) : s.prune.paint = s.paint.prune.paint := rfl
  rw [style_box, pruned, boxStyle_paint, ← pruned]

end Layer

/-- One of the images and gradients that a background image has one over the other. -/
inductive Sheet where
  | image (url : String)
  | gradient (text : String)
deriving DecidableEq, Repr

namespace Sheet

def css : Sheet → String
  | image url => "url(" ++ url ++ ")"
  | gradient text => text

def stacked? (sheets : List Sheet) : Option String :=
  if sheets = [] then none else some (", ".intercalate (sheets.map css))

end Sheet

namespace Paint
variable (p : Paint)

def isImage : Bool := p.kind == "IMAGE" && p.imageRef.isSome

def isSheet : Bool := p.isImage || (p.isGradient && !p.gradientStops.isEmpty)

def isColored : Bool := p.kind == "SOLID" && p.color.isSome

def sheet? : Option Sheet :=
  if p.kind = "IMAGE" then p.imageRef.map .image
  else if p.isGradient then p.gradient?.map .gradient
  else none

theorem imageLayer?_eq : p.imageLayer? = p.sheet?.map Sheet.css := by
  unfold imageLayer? sheet?
  split
  · cases p.imageRef <;> rfl
  · split
    · cases p.gradient? <;> rfl
    · rfl

theorem gradient?_isSome : p.gradient?.isSome = !p.gradientStops.isEmpty := by
  unfold gradient?
  cases p.gradientStops.isEmpty with
  | true => rfl
  | false =>
    simp only [Bool.false_eq_true, if_false]
    split
    · rfl
    · split <;> rfl

theorem isGradient_of_image {p : Paint} (image : p.kind = "IMAGE") : p.isGradient = false := by
  rw [isGradient, image]
  decide

theorem sheet?_isSome : p.sheet?.isSome = p.isSheet := by
  unfold sheet? isSheet isImage
  by_cases image : p.kind = "IMAGE"
  · simp [image, isGradient_of_image image]
  · cases gradient : p.isGradient <;> simp [image, gradient?_isSome]

theorem isSheet_of_colored {p : Paint} (colored : p.isColored = true) : p.isSheet = false := by
  have solid : p.kind = "SOLID" := by simp_all [isColored]
  have gradient : p.isGradient = false := by
    rw [isGradient, solid]
    decide
  simp [isSheet, isImage, solid, gradient]

end Paint

namespace Layer
variable (l : Layer)

def sheets : List Sheet := l.paintsFromTop.filterMap Paint.sheet?

theorem imageLayers_eq : l.paintsFromTop.filterMap Paint.imageLayer? = l.sheets.map Sheet.css := by
  have each : Paint.imageLayer? = fun p => p.sheet?.map Sheet.css := funext Paint.imageLayer?_eq
  rw [each, sheets, List.map_filterMap]

theorem mem_sheets {sheet : Sheet} :
    sheet ∈ l.sheets ↔ ∃ p ∈ l.visibleFills, p.sheet? = some sheet := by
  simp [sheets, paintsFromTop]

theorem image_mem_sheets {url : String} :
    .image url ∈ l.sheets ↔ ∃ p ∈ l.visibleFills, p.kind = "IMAGE" ∧ p.imageRef = some url := by
  rw [mem_sheets]
  have each (p : Paint) : p.sheet? = some (.image url) ↔ p.kind = "IMAGE" ∧ p.imageRef = some url := by
    unfold Paint.sheet?
    split
    · simp_all
    · split <;> simp_all
  simp only [each]

theorem backgroundColor?_eq :
    l.backgroundColor? = (l.paintsFromTop.find? Paint.isColored).bind Paint.css? := by
  unfold backgroundColor?
  induction l.paintsFromTop with
  | nil => rfl
  | cons p rest ih =>
    rw [List.findSome?_cons, List.find?_cons, ih]
    cases colored : p.isColored with
    | true =>
      have own : p.kind = "SOLID" ∧ p.color.isSome = true := by simpa [Paint.isColored] using colored
      obtain ⟨color, some⟩ := Option.isSome_iff_exists.1 own.2
      simp [own.1, Paint.css?, some]
    | false =>
      have nothing : (if p.kind = "SOLID" then p.css? else none) = none := by
        split
        · rename_i solid
          simpa [Paint.isColored, Paint.css?, solid] using colored
        · rfl
      simp [nothing]

/-- The fills of a container: the sheets in the background image, and the colour beneath them. The size
is that of the lowest image. -/
theorem withBackground_paint :
    l.withBackground {} =
      if l.sheets = [] then { background := l.backgroundColor? }
      else
        let s : BoxStyle :=
          { backgroundImage := Sheet.stacked? l.sheets, backgroundColor := l.backgroundColor? }
        if l.visibleFills.any Paint.isImage then l.withImageSize s else s := by
  unfold withBackground
  rw [imageLayers_eq]
  cases sheets : l.sheets with
  | nil => rfl
  | cons sheet rest => rfl

theorem style_container (parent : Option ParentFrame) :
    (l.style parent .container).1.box.paint = (l.withBackground {}).prune.paint :=
  l.style_paint parent .container

theorem style_backgroundImage (parent : Option ParentFrame) :
    (l.style parent .container).1.box.backgroundImage = Sheet.stacked? l.sheets := by
  have painted := congrArg BoxStyle.backgroundImage (l.style_container parent)
  calc (l.style parent .container).1.box.backgroundImage
      = (l.withBackground {}).backgroundImage := painted
    _ = Sheet.stacked? l.sheets := by
        rw [withBackground_paint]
        split
        · rename_i none
          simp [Sheet.stacked?, none]
        · dsimp only
          split <;> rfl

theorem style_colors (parent : Option ParentFrame) :
    (l.style parent .container).1.box.colors =
      if l.sheets = [] then (l.backgroundColor?, none) else (none, l.backgroundColor?) := by
  have painted := congrArg BoxStyle.colors (l.style_container parent)
  calc (l.style parent .container).1.box.colors
      = (l.withBackground {}).colors := painted
    _ = _ := by
        rw [withBackground_paint]
        split
        · rfl
        · dsimp only
          split <;> rfl

end Layer
end DesignMarkup
