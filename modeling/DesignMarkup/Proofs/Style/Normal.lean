import DesignMarkup.Proofs.Style.Paint
import DesignMarkup.Proofs.Style.RoundTrip
/-!
Normal styles: nothing in them is what a browser assumes anyway, and the colour of the background is
where it belongs. Pruning and putting the background in order make a style normal and neither undoes the
other, so a resolved style stays as it is (`resolved_styles_normal`).
-/
namespace DesignMarkup

def Free {α : Type} (idle : α → Bool) (slot : Option α) : Prop := ∀ value ∈ slot, idle value = false

section
variable {α : Type} {idle : α → Bool} {slot : Option α}

theorem free_filter : Free idle (slot.filter (!idle ·)) := by
  intro value kept
  simpa using (Option.filter_eq_some_iff.1 kept).2

theorem filter_of_free (free : Free idle slot) : slot.filter (!idle ·) = slot := by
  cases slot with
  | none => rfl
  | some value => simp [free value rfl]

variable [BEq α] {default : α}

theorem free_dropIf : Free (· == default) (dropIf default slot) := free_filter

theorem dropIf_of_free (free : Free (· == default) slot) : dropIf default slot = slot :=
  filter_of_free free

end

structure TextStyle.Spare (s : TextStyle) : Prop where
  fontWeight : Free (· == 400.0) s.fontWeight
  fontStyle : Free (· == .normal) s.fontStyle
  letterSpacing : Free (· == 0.0) s.letterSpacing
  whiteSpace : Free (· == .normal) s.whiteSpace
  textAlign : Free (· == .left) s.textAlign

structure FlexStyle.Spare (s : FlexStyle) : Prop where
  flexGrow : Free (· == 0.0) s.flexGrow
  flexDirection : Free (· == .row) s.flexDirection
  flexWrap : Free (· == .nowrap) s.flexWrap
  justifyContent : Free (· == .flexStart) s.justifyContent
  alignSelf : Free (· == .auto) s.alignSelf
  gaps : ∀ gap ∈ [s.columnGap, s.rowGap], Free (· == 0.0) gap

namespace BoxStyle

def spaces (s : BoxStyle) : List (Option Float) :=
  [s.paddingTop, s.paddingRight, s.paddingBottom, s.paddingLeft,
    s.marginTop, s.marginRight, s.marginBottom, s.marginLeft]

structure Spare (s : BoxStyle) : Prop where
  boxSizing : Free (· == .contentBox) s.boxSizing
  overflow : Free (· == "visible") s.overflow
  overflows : ∀ overflow ∈ [s.overflowX, s.overflowY], Free (· == .visible) overflow
  backgroundRepeat : Free (· == .repeated) s.backgroundRepeat
  spaces : ∀ space ∈ s.spaces, Free (· == 0.0) space
  radii : ∀ radius ∈ s.radii, Free Radius.isZero radius

end BoxStyle

/-- No facet holds what a browser assumes anyway. -/
structure Style.Spare (s : Style) : Prop where
  box : s.box.Spare
  text : s.text.Spare
  flex : s.flex.Spare
  opacity : Free (· == 1.0) s.visibility.opacity
  transform : Free (· == "none") s.transform.transform

theorem TextStyle.spare_prune (s : TextStyle) : s.prune.Spare :=
  ⟨free_dropIf, free_dropIf, free_dropIf, free_dropIf, free_dropIf⟩

theorem TextStyle.prune_of_spare {s : TextStyle} (spare : s.Spare) : s.prune = s := by
  obtain ⟨fontWeight, fontStyle, letterSpacing, whiteSpace, textAlign⟩ := spare
  simp only [prune, dropIf_of_free, *]

theorem FlexStyle.spare_prune (s : FlexStyle) : s.prune.Spare where
  flexGrow := free_dropIf
  flexDirection := free_dropIf
  flexWrap := free_dropIf
  justifyContent := free_dropIf
  alignSelf := free_dropIf
  gaps := by simp [prune, free_dropIf]

theorem FlexStyle.prune_of_spare {s : FlexStyle} (spare : s.Spare) : s.prune = s := by
  obtain ⟨flexGrow, flexDirection, flexWrap, justifyContent, alignSelf, gaps⟩ := spare
  simp only [List.forall_mem_cons] at gaps
  simp only [prune, dropIf_of_free, *]

namespace BoxStyle

theorem spare_prune (s : BoxStyle) : s.prune.Spare where
  boxSizing := free_dropIf
  overflow := free_dropIf
  overflows := by simp [prune, free_dropIf]
  backgroundRepeat := free_dropIf
  spaces := by simp [spaces, prune, free_dropIf]
  radii := by simp [radii, prune, dropZeroRadius, free_filter]

variable {s : BoxStyle}

theorem prune_of_spare (spare : s.Spare) : s.prune = s := by
  obtain ⟨boxSizing, overflow, overflows, backgroundRepeat, spaces, radii⟩ := spare
  simp only [BoxStyle.spaces, BoxStyle.radii, List.forall_mem_cons] at overflows spaces radii
  simp only [prune, dropZeroRadius, dropIf_of_free, filter_of_free, *]

theorem normalizeBackground_eq (s : BoxStyle) : ∃ background backgroundColor,
    s.normalizeBackground.1 = { s with background, backgroundColor } := by
  unfold normalizeBackground
  split
  all_goals exact ⟨_, _, rfl⟩

theorem Spare.normalizeBackground (spare : s.Spare) : s.normalizeBackground.1.Spare := by
  obtain ⟨background, backgroundColor, same⟩ := s.normalizeBackground_eq
  rw [same]
  exact ⟨spare.boxSizing, spare.overflow, spare.overflows, spare.backgroundRepeat, spare.spaces,
    spare.radii⟩

theorem normalizeBackground_settles (s : BoxStyle) : s.normalizeBackground.1.Settled := by
  unfold BoxStyle.normalizeBackground
  split
  all_goals constructor
  all_goals simp_all

theorem normalizeBackground_of_settled (settled : s.Settled) : s.normalizeBackground = (s, none) := by
  have lone : s.colors.1 = none ∨ s.colors.2 = none := by
    cases image : s.backgroundImage with
    | none => exact .inr (settled.alone image)
    | some text => exact .inl (settled.beneath (by simp [image]))
  exact Prod.ext (normalizeBackground_settled settled) (no_collision lone)

end BoxStyle

namespace Style
variable {s : Style}

theorem spare_prune (s : Style) : s.prune.Spare :=
  ⟨s.box.spare_prune, s.text.spare_prune, s.flex.spare_prune, free_dropIf, free_dropIf⟩

theorem prune_of_spare (spare : s.Spare) : s.prune = s := by
  simp only [prune, BoxStyle.prune_of_spare spare.box, TextStyle.prune_of_spare spare.text,
    FlexStyle.prune_of_spare spare.flex, VisibilityStyle.prune, dropIf_of_free spare.opacity,
    TransformStyle.prune, dropIf_of_free spare.transform]

theorem normalizeBackground_of_settled (settled : s.box.Settled) :
    s.normalizeBackground = (s, none) := by
  rw [normalizeBackground, BoxStyle.normalizeBackground_of_settled settled]

/-- Pruning and then putting the background in order makes any style normal. -/
theorem prune_normalizeBackground_normal (s : Style) :
    s.prune.normalizeBackground.1.Spare ∧ s.prune.normalizeBackground.1.box.Settled := by
  have spare := s.spare_prune
  exact ⟨⟨spare.box.normalizeBackground, spare.text, spare.flex, spare.opacity, spare.transform⟩,
    s.prune.box.normalizeBackground_settles⟩

end Style

/-- No two colours compete in a resolved style. No facet of it holds what a browser assumes anyway, and a
colour is only beneath an image or alone; so neither pruning nor putting the background in order changes
it. -/
theorem resolved_styles_normal (l : Layer) (parent : Option ParentFrame) (target : StyleTarget) :
    (l.style parent target).2 = none ∧
    let s := (l.style parent target).1
    s.Spare ∧ s.prune = s ∧ s.box.Settled ∧ s.normalizeBackground = (s, none) := by
  obtain ⟨spare, settled⟩ := (l.fullStyle parent target).prune_normalizeBackground_normal
  exact ⟨l.style_collision parent target, spare, Style.prune_of_spare spare, settled,
    Style.normalizeBackground_of_settled settled⟩

end DesignMarkup
