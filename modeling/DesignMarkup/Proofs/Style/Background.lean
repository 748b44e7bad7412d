import DesignMarkup.Style.Codec
import DesignMarkup.Style.Resolve
/-!
The box of a resolved style. A layer gives its colour to one place only, so no two colours meet when
the background is put in order; and a layer with a place has a style, as its width is in it. Size and
overflow are each set by one step, and the other steps leave them alone.
-/
namespace DesignMarkup

def BoxStyle.colors (s : BoxStyle) : Option String × Option String :=
  (s.background, s.backgroundColor)

theorem BoxStyle.no_collision {s : BoxStyle} (lone : s.colors.1 = none ∨ s.colors.2 = none) :
    s.normalizeBackground.2 = none := by
  unfold normalizeBackground
  split
  all_goals simp_all [colors]

def BoxStyle.extent (s : BoxStyle) : Option Float × Option Float × Option String :=
  (s.width, s.height, s.overflow)

theorem BoxStyle.normalizeBackground_extent (s : BoxStyle) :
    s.normalizeBackground.1.extent = s.extent := by
  unfold normalizeBackground
  split <;> rfl

theorem BoxStyle.entries_of_width {s : BoxStyle} {x : Float} (width : s.width = some x) :
    s.entries ≠ [] := by
  intro none
  unfold entries at none
  simp only [List.append_eq_nil_iff, width, and_assoc] at none
  obtain ⟨_, written, _⟩ := none
  exact nomatch written

theorem Style.isEmpty_of_width {s : Style} {x : Float} (width : s.box.width = some x) :
    s.isEmpty = false := by
  rw [isEmpty, List.isEmpty_eq_false_iff]
  intro none
  unfold entries at none
  simp only [List.append_eq_nil_iff, and_assoc] at none
  obtain ⟨_, box, _⟩ := none
  exact BoxStyle.entries_of_width width box

/-- The box without what stands between its size and its paint: padding, border and corners, and what
the size is measured to. -/
def BoxStyle.ground (s : BoxStyle) : BoxStyle :=
  { s with
    paddingTop := none, paddingRight := none, paddingBottom := none, paddingLeft := none
    borderTopWidth := none, borderTopColor := none, borderRightWidth := none
    borderRightColor := none, borderBottomWidth := none, borderBottomColor := none
    borderLeftWidth := none, borderLeftColor := none, borderStyle := none
    borderTopLeftRadius := none, borderTopRightRadius := none, borderBottomRightRadius := none
    borderBottomLeftRadius := none, boxSizing := none }

def BoxStyle.unsized (s : BoxStyle) : BoxStyle := { s with width := none, height := none }

def BoxStyle.unpainted (s : BoxStyle) : BoxStyle :=
  { s with
    background := none, backgroundImage := none, backgroundColor := none
    backgroundPosition := none, backgroundSize := none, backgroundRepeat := none
    backgroundClip := none, webkitBackgroundClip := none }

namespace Layer
variable (l : Layer) (s : BoxStyle)

theorem withSize_unsized (parent : Option ParentFrame) (target : StyleTarget) :
    (l.withSize parent target s).unsized = s.unsized := by
  unfold withSize
  split
  · split <;> rfl
  · rfl

theorem withPadding_ground : (l.withPadding s).ground = s.ground := by
  unfold withPadding
  split <;> rfl

theorem withBorder_ground : (l.withBorder s).ground = s.ground := by
  unfold withBorder
  split <;> rfl

theorem withRadius_ground : (l.withRadius s).ground = s.ground := by
  unfold withRadius
  split <;> rfl

theorem withBoxSizing_ground : (withBoxSizing s).ground = s.ground := by
  unfold withBoxSizing
  dsimp only
  split <;> rfl

theorem withPaint_unpainted (target : StyleTarget) :
    (l.withPaint target s).unpainted = s.unpainted := by
  cases target with
  | container =>
    simp only [withPaint, withBackground]
    split
    · rfl
    · split <;> rfl
  | text =>
    simp only [withPaint, withTextGradient]
    split <;> rfl
  | asset => rfl

def unpainted (parent : Option ParentFrame) (target : StyleTarget) : BoxStyle :=
  withBoxSizing <| l.withRadius <| l.withBorder <| l.withPadding <| l.withSize parent target {}

theorem unpainted_ground (parent : Option ParentFrame) (target : StyleTarget) :
    (l.unpainted parent target).ground = (l.withSize parent target {}).ground := by
  rw [unpainted, withBoxSizing_ground, withRadius_ground, withBorder_ground, withPadding_ground]

theorem unpainted_extent (parent : Option ParentFrame) (target : StyleTarget) :
    (l.unpainted parent target).extent = (l.withSize parent target {}).extent := by
  change (l.unpainted parent target).ground.extent = (l.withSize parent target {}).ground.extent
  rw [unpainted_ground]

/-- Content is cut off at the box: that of a container which clips it, or text that is truncated. -/
def cutsOff : Bool := (l.clipsContent && !l.children.isEmpty) || (l.isText && l.truncates)

theorem boxStyle_eq (parent : Option ParentFrame) (target : StyleTarget) :
    l.boxStyle parent target =
      if l.cutsOff then
        { l.withPaint target (l.unpainted parent target) with overflow := some "hidden" }
      else l.withPaint target (l.unpainted parent target) := rfl

theorem boxStyle_extent (parent : Option ParentFrame) (target : StyleTarget) :
    (l.boxStyle parent target).extent =
      ((l.withSize parent target {}).width, (l.withSize parent target {}).height,
        if l.cutsOff then some "hidden" else none) := by
  have painted : (l.withPaint target (l.unpainted parent target)).extent =
      (l.withSize parent target {}).extent :=
    (congrArg BoxStyle.extent (l.withPaint_unpainted _ target)).trans
      (l.unpainted_extent parent target)
  have sized : (l.withSize parent target {}).overflow = none :=
    congrArg BoxStyle.overflow (l.withSize_unsized {} parent target)
  obtain ⟨width, rest⟩ := Prod.mk.inj painted
  obtain ⟨height, overflow⟩ := Prod.mk.inj rest
  rw [sized] at overflow
  rw [boxStyle_eq]
  split
  · rw [← width, ← height]
    rfl
  · rw [← width, ← height]
    exact congrArg (_, _, ·) overflow

theorem withPaint_lone (target : StyleTarget) (bare : s.colors = (none, none)) :
    (l.withPaint target s).colors.1 = none ∨ (l.withPaint target s).colors.2 = none := by
  obtain ⟨background, color⟩ := Prod.mk.inj bare
  cases target with
  | container =>
    simp only [withPaint, withBackground]
    split
    · exact .inr color
    · split <;> exact .inl background
  | text =>
    simp only [withPaint, withTextGradient]
    split <;> exact .inl background
  | asset => exact .inl background

theorem style_collision (parent : Option ParentFrame) (target : StyleTarget) :
    (l.style parent target).2 = none := by
  have bare : (l.unpainted parent target).colors = (none, none) :=
    (congrArg BoxStyle.colors (l.unpainted_ground parent target)).trans
      (congrArg BoxStyle.colors (l.withSize_unsized {} parent target))
  have kept : (l.boxStyle parent target).colors =
      (l.withPaint target (l.unpainted parent target)).colors := by
    rw [boxStyle_eq]
    split <;> rfl
  have lone := l.withPaint_lone _ target bare
  rw [← kept] at lone
  -- Pruning leaves the colours as they are.
  exact BoxStyle.no_collision (s := (l.boxStyle parent target).prune) lone

/-- No browser assumes a width, a height or that content is cut off, so these stay in the style. -/
theorem style_extent (parent : Option ParentFrame) (target : StyleTarget) :
    (l.style parent target).1.box.extent = (l.boxStyle parent target).extent := by
  have pruned : (l.boxStyle parent target).prune.extent = (l.boxStyle parent target).extent := by
    have kept := congrArg (·.2.2) (l.boxStyle_extent parent target)
    have overflow : (l.boxStyle parent target).prune.overflow =
        (l.boxStyle parent target).overflow := by
      change dropIf "visible" (l.boxStyle parent target).overflow = _
      rw [show (l.boxStyle parent target).overflow = _ from kept]
      split <;> rfl
    exact congrArg (_, _, ·) overflow
  exact (BoxStyle.normalizeBackground_extent _).trans pruned

theorem style_nonempty {l : Layer} {b : Bounds} (placed : l.bounds = some b)
    (parent : Option ParentFrame) : (l.style parent .container).1.isEmpty = false := by
  have sized : (l.style parent .container).1.box.width = some (Decimal.round2 b.width) := by
    have width := congrArg Prod.fst ((l.style_extent parent .container).trans
      (l.boxStyle_extent parent .container))
    rw [withSize, placed] at width
    exact width
  exact Style.isEmpty_of_width sized

end Layer
end DesignMarkup
