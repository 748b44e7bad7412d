import DesignMarkup.Proofs.Layer.Own
import DesignMarkup.Proofs.Layer.Positioning
import DesignMarkup.Proofs.Style.Normal
/-!
Facets that hang together. Each facet of a style is computed from the layer on its own, and pruned on its
own; still they agree on what leaves the flow, on how text is cut off and on where there is a border.
-/
namespace DesignMarkup
open Decimal (round2)

theorem Decimal.pos_of_not_le {x : Float} (number : x.isNaN = false) (above : ¬ x ≤ 0.0) : 0.0 < x := by
  change x.toModel.unpack.isNaN = false at number
  change ¬ (decide (x.toModel.unpack.le (0.0 : Float).toModel.unpack = true) = true) at above
  change decide ((0.0 : Float).toModel.unpack.lt x.toModel.unpack = true) = true
  have zero : (0.0 : Float).toModel.unpack = .zero .positive := rfl
  rw [zero] at above ⊢
  generalize x.toModel.unpack = f at number above
  cases f with
  | notANumber => cases number
  | zero sign => simp_all [Float.Model.UnpackedFloat.le, Float.Model.UnpackedFloat.compare]
  | infinity sign | finite sign =>
    cases sign
    all_goals simp_all [Float.Model.UnpackedFloat.le, Float.Model.UnpackedFloat.lt,
      Float.Model.UnpackedFloat.compare]

namespace BoxStyle

def sides (s : BoxStyle) : List (Option Float × Option String) :=
  [(s.borderTopWidth, s.borderTopColor), (s.borderRightWidth, s.borderRightColor),
    (s.borderBottomWidth, s.borderBottomColor), (s.borderLeftWidth, s.borderLeftColor)]

def border (s : BoxStyle) : List (Option Float × Option String) × Option LineStyle :=
  (s.sides, s.borderStyle)

def paddings (s : BoxStyle) : List (Option Float) :=
  [s.paddingTop, s.paddingRight, s.paddingBottom, s.paddingLeft]

def edges (s : BoxStyle) :
    (List (Option Float × Option String) × Option LineStyle) × List (Option Float) × Option BoxSizing :=
  (s.border, s.paddings, s.boxSizing)

/-- A side has a width exactly if it has a colour, and a line is drawn exactly if some side has a width. -/
structure Outlined (s : BoxStyle) : Prop where
  paired : ∀ side ∈ s.sides, side.1.isSome ↔ side.2.isSome
  drawn : s.borderStyle.isSome ↔ ∃ side ∈ s.sides, side.1.isSome

def Surrounds (s : BoxStyle) : Prop :=
  s.borderStyle.isSome ∨ ∃ x, some x ∈ s.paddings ∧ 0.0 < x

variable {s t : BoxStyle}

theorem Outlined.of_border (outlined : t.Outlined) (same : s.border = t.border) : s.Outlined := by
  obtain ⟨sides, borderStyle⟩ := Prod.mk.inj same
  constructor
  · rw [sides]
    exact outlined.paired
  · rw [sides, borderStyle]
    exact outlined.drawn

theorem paddings_prune : s.prune.paddings = s.paddings.map (dropIf 0.0) := rfl

theorem mem_paddings_prune {x : Float} (kept : some x ∈ s.prune.paddings) : some x ∈ s.paddings := by
  rw [paddings_prune] at kept
  obtain ⟨padding, member, same⟩ := List.mem_map.1 kept
  rwa [Option.eq_some_of_filter_eq_some same] at member

theorem Surrounds.of_prune (surrounds : s.prune.Surrounds) : s.Surrounds := by
  rcases surrounds with line | ⟨x, padding, above⟩
  · exact .inl line
  · exact .inr ⟨x, mem_paddings_prune padding, above⟩

end BoxStyle

namespace Layer

/-- The widths of the strokes are numbers. -/
structure StrokesMeasured (l : Layer) : Prop where
  all : ∀ x ∈ l.strokeWeight, x.isNaN = false
  each : ∀ w ∈ l.strokeWeights, ∀ x ∈ [w.top, w.right, w.bottom, w.left], x.isNaN = false

section
variable {l : Layer}

theorem border?_pos (measured : l.StrokesMeasured) {w : StrokeWeights} {color : String}
    (border : l.border? = some (w, color)) : ∃ x ∈ [w.top, w.right, w.bottom, w.left], 0.0 < x := by
  unfold border? at border
  obtain ⟨stroke, -, border⟩ := Option.bind_eq_some_iff.1 border
  obtain ⟨paint, -, border⟩ := Option.bind_eq_some_iff.1 border
  dsimp only at border
  split at border
  · cases border
  · rename_i seen
    obtain ⟨rfl, -⟩ := Prod.mk.inj (Option.some.inj border)
    simp only [Bool.not_eq_true, List.all_eq_false, decide_eq_true_eq] at seen
    obtain ⟨x, side, above⟩ := seen
    refine ⟨x, side, Decimal.pos_of_not_le ?_ above⟩
    cases weights : l.strokeWeights with
    | some w =>
      rw [weights] at side
      exact measured.each w weights x side
    | none =>
      rw [weights] at side
      obtain rfl : x = l.strokeWeight.getD 1.0 := by simpa using side
      cases weight : l.strokeWeight with
      | some y => exact measured.all y weight
      | none => rfl

variable (l) (s : BoxStyle)

theorem withPadding_border : (l.withPadding s).border = s.border := by
  unfold withPadding
  split <;> rfl

theorem withRadius_border : (l.withRadius s).border = s.border := by
  unfold withRadius
  split <;> rfl

theorem withBoxSizing_border : (withBoxSizing s).border = s.border := by
  unfold withBoxSizing
  dsimp only
  split <;> rfl

variable {l s}

theorem withBorder_outlined (measured : l.StrokesMeasured) (bare : s.border = BoxStyle.border {}) :
    (l.withBorder s).Outlined := by
  cases border : l.border? with
  | none =>
    refine BoxStyle.Outlined.of_border (t := {}) ⟨by simp [BoxStyle.sides], by simp [BoxStyle.sides]⟩ ?_
    rw [withBorder, border]
    exact bare
  | some drawn =>
    obtain ⟨w, color⟩ := drawn
    have sides : (l.withBorder s).sides = [w.top, w.right, w.bottom, w.left].map fun x =>
        (if 0.0 < x then some (round2 x) else none, if 0.0 < x then some color else none) := by
      rw [withBorder, border]
      rfl
    have line : (l.withBorder s).borderStyle.isSome := by
      rw [withBorder, border]
      rfl
    constructor
    · rw [sides, List.forall_mem_map]
      intro x _
      split <;> simp
    · refine iff_of_true line ?_
      obtain ⟨x, side, above⟩ := border?_pos measured border
      rw [sides]
      exact ⟨_, List.mem_map_of_mem side, by simp [above]⟩

theorem withBoxSizing_measured (surrounds : (withBoxSizing s).Surrounds) :
    (withBoxSizing s).boxSizing = some .borderBox := by
  unfold withBoxSizing at surrounds ⊢
  dsimp only at surrounds ⊢
  split at surrounds
  · rename_i around
    rw [if_pos around]
  · rename_i clear
    exfalso
    apply clear
    rcases surrounds with line | ⟨x, padding, above⟩
    · simp [line]
    · rw [Bool.or_eq_true, List.any_eq_true]
      exact .inl ⟨some x, padding, by simpa using above⟩

variable (l) (parent : Option ParentFrame) (target : StyleTarget)

theorem unpainted_outlined (measured : l.StrokesMeasured) : (l.unpainted parent target).Outlined := by
  have sized := congrArg BoxStyle.border (l.withSize_unsized {} parent target)
  have bare : (l.withPadding (l.withSize parent target {})).border = BoxStyle.border {} :=
    (l.withPadding_border _).trans sized
  refine (withBorder_outlined measured bare).of_border ?_
  rw [unpainted, withBoxSizing_border, withRadius_border]

theorem style_edges : (l.style parent target).1.box.edges = (l.unpainted parent target).prune.edges := by
  have kept := congrArg BoxStyle.edges (l.withPaint_unpainted (l.unpainted parent target) target)
  have painted : (l.boxStyle parent target).edges = (l.unpainted parent target).edges := by
    rw [boxStyle_eq]
    split
    all_goals exact kept
  have pruned (s : BoxStyle) : s.prune.edges =
      (s.edges.1, s.edges.2.1.map (dropIf 0.0), dropIf .contentBox s.edges.2.2) := rfl
  rw [style_box, pruned, painted, ← pruned]

theorem style_outlined (measured : l.StrokesMeasured) : (l.style parent target).1.box.Outlined :=
  (l.unpainted_outlined parent target measured).of_border (congrArg Prod.fst (l.style_edges parent target))

theorem style_measured (surrounds : (l.style parent target).1.box.Surrounds) :
    (l.style parent target).1.box.boxSizing = some .borderBox := by
  have edges := l.style_edges parent target
  obtain ⟨border, rest⟩ := Prod.mk.inj edges
  obtain ⟨paddings, boxSizing⟩ := Prod.mk.inj rest
  have pruned : (l.unpainted parent target).prune.Surrounds := by
    rw [BoxStyle.Surrounds, (Prod.mk.inj border).2, paddings] at surrounds
    exact surrounds
  rw [boxSizing]
  change dropIf .contentBox (l.unpainted parent target).boxSizing = _
  rw [unpainted, withBoxSizing_measured pruned.of_prune]
  rfl

theorem style_rigid (absolute : (l.style parent target).1.layout.position = some .absolute) :
    let s := (l.style parent target).1
    s.flex.flexGrow = none ∧ s.flex.flexShrink = none ∧ s.flex.alignSelf = none := by
  change (l.layoutStyle parent).position = _ at absolute
  have outOfFlow : (parent.any (·.autoLayout) && !l.isAbsolute) = false := by
    rcases l.layoutStyle_cases parent with ⟨p, _, rfl, _, leaves, _⟩ | ⟨_, inFlow, _⟩
    · rcases leaves with free | asked
      · simp [free]
      · simp [asked]
    · rw [inFlow] at absolute
      split at absolute <;> cases absolute
  have flex : l.flexStyle parent = if l.isAutoLayout then l.containerStyle else {} := by
    rw [flexStyle, outOfFlow]
    rfl
  change (l.flexStyle parent).prune.flexGrow = none ∧ (l.flexStyle parent).prune.flexShrink = none ∧
    (l.flexStyle parent).prune.alignSelf = none
  rw [flex]
  cases l.isAutoLayout with
  | true => exact ⟨rfl, rfl, rfl⟩
  | false => exact ⟨rfl, rfl, rfl⟩

theorem truncates_iff :
    l.truncates = true ↔ ∃ t, l.typography = some t ∧ t.textTruncation = some "ENDING" := by
  simp [truncates, Option.any_eq_true]

theorem textStyle_truncated (cut : l.truncates = true) :
    (l.textStyle .text).textOverflow = some .ellipsis ∧
    ((l.textStyle .text).whiteSpace = some .nowrap ∧ (l.textStyle .text).webkitLineClamp = none ∨
      ∃ lines, l.clampLines? = some lines ∧ (l.textStyle .text).webkitLineClamp = some lines ∧
        (l.textStyle .text).webkitBoxOrient = some .vertical) := by
  obtain ⟨t, typography, -⟩ := l.truncates_iff.1 cut
  simp only [textStyle, if_pos, typography, Option.map_some, Option.getD_some, withTruncation, cut]
  cases clamp : l.clampLines? with
  | none => exact ⟨rfl, .inl ⟨rfl, rfl⟩⟩
  | some lines => exact ⟨rfl, .inr ⟨lines, rfl, rfl, rfl⟩⟩

theorem textStyle_whole (whole : ¬ (target = .text ∧ l.truncates = true)) :
    (l.textStyle target).textOverflow = none := by
  unfold textStyle
  split
  · rename_i text
    have fits : l.truncates = false := by simpa [text] using whole
    cases typography : l.typography with
    | none => rfl
    | some t =>
      simp only [Option.map_some, Option.getD_some, withTruncation, fits]
      rfl
  · rfl

theorem style_ellipsis_iff :
    (l.style parent target).1.text.textOverflow = some .ellipsis ↔ target = .text ∧ l.truncates = true := by
  change (l.textStyle target).textOverflow = _ ↔ _
  constructor
  · intro ellipsis
    by_contra whole
    rw [l.textStyle_whole target whole] at ellipsis
    cases ellipsis
  · rintro ⟨rfl, cut⟩
    exact (l.textStyle_truncated cut).1

theorem layoutStyle_display :
    (l.layoutStyle parent).display =
      if l.isText && l.clampLines?.isSome then some .webkitBox
      else if l.isAutoLayout then some .flex
      else none := by
  unfold layoutStyle
  dsimp only
  split <;> rfl

theorem clampLines?_above_one {lines : UInt32} (clamp : l.clampLines? = some lines) : 1 < lines := by
  have kept := (Option.filter_eq_some_iff.1 clamp).2
  rw [Bool.and_eq_true, decide_eq_true_eq] at kept
  exact kept.1

end
end Layer

/-- What does not fit is hidden, behind the end of a single line or of several ones. -/
def Style.CutsText (s : Style) : Prop :=
  s.box.overflow = some "hidden" ∧
  (s.text.whiteSpace = some .nowrap ∧ s.text.webkitLineClamp = none ∨
    ∃ lines, 1 < lines ∧ s.text.webkitLineClamp = some lines ∧
      s.text.webkitBoxOrient = some .vertical ∧ s.layout.display = some .webkitBox)

namespace Layer

structure Agrees (l : Layer) (s : Style) : Prop where
  rigid : s.layout.position = some .absolute →
    s.flex.flexGrow = none ∧ s.flex.flexShrink = none ∧ s.flex.alignSelf = none
  ellipsis : s.text.textOverflow = some .ellipsis ↔
    l.kind = "TEXT" ∧ ∃ t, l.typography = some t ∧ t.textTruncation = some "ENDING"
  cut : s.text.textOverflow = some .ellipsis → s.CutsText
  outlined : s.box.Outlined
  measured : s.box.Surrounds → s.box.boxSizing = some .borderBox

theorem style_cutsText {l : Layer} (isText : l.isText = true) (parent : Option ParentFrame)
    (cut : l.truncates = true) : (l.style parent .text).1.CutsText := by
  have overflow : (l.style parent .text).1.box.overflow = some "hidden" := by
    have extent := (l.style_extent parent .text).trans (l.boxStyle_extent parent .text)
    have cutsOff : l.cutsOff = true := by simp [cutsOff, isText, cut]
    rw [cutsOff] at extent
    exact congrArg (·.2.2) extent
  have same (s : TextStyle) : s.prune.webkitLineClamp = s.webkitLineClamp ∧
      s.prune.webkitBoxOrient = s.webkitBoxOrient := ⟨rfl, rfl⟩
  refine ⟨overflow, ?_⟩
  rcases (l.textStyle_truncated cut).2 with ⟨whiteSpace, clamp⟩ | ⟨lines, clamp, shown, orient⟩
  · left
    refine ⟨?_, clamp⟩
    change dropIf .normal (l.textStyle .text).whiteSpace = _
    rw [whiteSpace]
    rfl
  · right
    refine ⟨lines, l.clampLines?_above_one clamp, shown, orient, ?_⟩
    change (l.layoutStyle parent).display = _
    rw [layoutStyle_display, isText, clamp]
    rfl

theorem style_agrees {l : Layer} (measured : l.StrokesMeasured) (parent : Option ParentFrame)
    {target : StyleTarget} (text : target = .text ↔ l.kind = "TEXT") :
    l.Agrees (l.style parent target).1 where
  rigid := l.style_rigid parent target
  ellipsis := by rw [style_ellipsis_iff, text, truncates_iff]
  cut := by
    rw [style_ellipsis_iff]
    rintro ⟨rfl, cut⟩
    exact style_cutsText (beq_iff_eq.2 (text.1 rfl)) parent cut
  outlined := l.style_outlined parent target measured
  measured := l.style_measured parent target

theorem target_text_iff {c : Config} {l : Layer} {target : StyleTarget}
    (given : (l.form c).target? = some target) : target = .text ↔ l.kind = "TEXT" := by
  rw [← @beq_iff_eq _ _ _ l.kind "TEXT", ← isText]
  unfold form at given
  split at given
  · cases given
  · split at given
    · rename_i text
      cases given
      exact iff_of_true rfl text
    · rename_i other
      have notText : target ≠ .text := by
        rintro rfl
        split at given
        · cases given
        · split at given
          all_goals cases given
      exact iff_of_false notText other

end Layer

/-- The facets of a resolved style agree, if text layers are resolved as text and all others in another
way; and so they do in each element that is no placeholder. -/
theorem facets_agree {l : Layer} (measured : l.StrokesMeasured) (parent : Option ParentFrame) :
    (∀ target, (target = .text ↔ l.kind = "TEXT") → l.Agrees (l.style parent target).1) ∧
    ∀ c target, (l.form c).target? = some target → l.Agrees (l.emit c parent).tree.style := by
  refine ⟨fun target text => Layer.style_agrees measured parent text, ?_⟩
  intro c target given
  have style : (l.emit c parent).tree.style = (l.style parent target).1 := by
    rw [show (l.emit c parent).tree.style = l.formStyle parent (l.form c) from
      congrArg Element.style (l.emit_own c parent), Layer.formStyle, given]
    rfl
  rw [style]
  exact Layer.style_agrees measured parent (Layer.target_text_iff given)

/-- A headline on a card: cut after three lines, with a dashed line above and below it. -/
def headline : Layer where
  id := "1:1"
  kind := "TEXT"
  bounds := some ⟨0.0, 0.0, 40.0, 20.0⟩
  characters := some "Sale"
  typography := some { textTruncation := some "ENDING", maxLines := some 3 }
  strokes := [{ kind := "SOLID", color := some ⟨0.0, 0.0, 0.0, 1.0⟩ }]
  strokeWeights := some ⟨2.0, 0.0, 0.5, -1.0⟩
  strokeDashes := [4.0]
  layoutAlign := some "STRETCH"

def cardFrame : ParentFrame := ⟨⟨0.0, 0.0, 80.0, 80.0⟩, false⟩

theorem headline_agrees :
    headline.StrokesMeasured ∧ (StyleTarget.text = .text ↔ headline.kind = "TEXT") ∧
    (headline.form {}).target? = some .text ∧
    headline.Agrees (headline.style (some cardFrame) .text).1 ∧
    headline.Agrees (headline.emit {} (some cardFrame)).tree.style := by
  have measured : headline.StrokesMeasured := ⟨nofun, by rintro _ ⟨⟩; decide⟩
  have text : StyleTarget.text = .text ↔ headline.kind = "TEXT" := by decide
  have given : (headline.form {}).target? = some .text := by decide
  obtain ⟨resolved, emitted⟩ := facets_agree measured (some cardFrame)
  exact ⟨measured, text, given, resolved .text text, emitted {} .text given⟩

end DesignMarkup
