import DesignMarkup.Proofs.Dict
import DesignMarkup.Proofs.Lists
import DesignMarkup.Proofs.Style.Paint
/-!
The paint of text. A gradient is put behind the text, cut to its letters, and shows where the text is
transparent. The text is made transparent for any visible gradient fill, but only the topmost one is
put behind it, and without stops it is nothing. So there is text that cannot be seen.
-/
namespace DesignMarkup

theorem Color.css_ne_transparent (c : Color) (opacity : Option Float) :
    c.css opacity ≠ "transparent" := by
  intro same
  have first : (c.css opacity).toList.head? = some 't' := by
    rw [same]
    rfl
  unfold css hex at first
  dsimp only at first
  split at first
  · simp at first
  · simp at first

namespace Layer

def Topmost (l : Layer) (kind : Paint → Bool) (p : Paint) : Prop :=
  ∃ below above, l.visibleFills = below ++ p :: above ∧ kind p = true ∧ ∀ q ∈ above, kind q = false

structure ShowsGradient (l : Layer) (s : BoxStyle) : Prop where
  image : ∃ p ∈ l.visibleFills, p.isGradient = true ∧ p.gradient?.isSome = true ∧
    s.backgroundImage = p.gradient?
  clip : s.backgroundClip = some .text
  webkitClip : s.webkitBackgroundClip = some .text

/-- The text is transparent exactly if a gradient shows through it. If there is none and every visible
solid fill has a colour, the text has that of the topmost one. -/
structure PaintsText (l : Layer) (s : Style) : Prop where
  transparent : s.text.color = some "transparent" ↔ l.ShowsGradient s.box
  solid : s.box.backgroundImage = none →
    (∀ p ∈ l.visibleFills, p.kind = "SOLID" → p.color ≠ none) →
    ∀ p, l.Topmost (·.kind == "SOLID") p → s.text.color = p.css?

section
variable {l : Layer} {kind : Paint → Bool} {p : Paint}

theorem topmost_iff : (l.visibleFills.filter kind).getLast? = some p ↔ l.Topmost kind p :=
  getLast?_filter_eq_some

theorem Topmost.mem (topmost : l.Topmost kind p) : p ∈ l.visibleFills ∧ kind p = true := by
  obtain ⟨below, above, split, own, _⟩ := topmost
  exact ⟨by simp [split], own⟩

theorem Topmost.unique {q : Paint} (first : l.Topmost kind p) (second : l.Topmost kind q) : p = q := by
  rw [← topmost_iff] at first second
  rw [first] at second
  exact Option.some.inj second

theorem exists_topmost_iff : (∃ p, l.Topmost kind p) ↔ ∃ p ∈ l.visibleFills, kind p = true := by
  constructor
  · rintro ⟨p, topmost⟩
    exact ⟨p, topmost.mem⟩
  · rintro ⟨p, member, own⟩
    have filled : l.visibleFills.filter kind ≠ [] :=
      List.ne_nil_of_mem (List.mem_filter.2 ⟨member, own⟩)
    exact ⟨_, topmost_iff.1 (List.getLast?_eq_some_getLast filled)⟩

end

variable (l : Layer) (parent : Option ParentFrame)

def textGradient? : Option String :=
  (l.visibleFills.filter Paint.isGradient).getLast?.bind Paint.gradient?

theorem textGradient?_eq_some {image : String} :
    l.textGradient? = some image ↔
      ∃ p, l.Topmost Paint.isGradient p ∧ p.gradient? = some image := by
  rw [textGradient?, Option.bind_eq_some_iff]
  simp only [topmost_iff]

theorem style_textGradient :
    (l.style parent .text).1.box.paint =
      { backgroundImage := l.textGradient?
        backgroundClip := l.textGradient?.map fun _ => .text
        webkitBackgroundClip := l.textGradient?.map fun _ => .text } := by
  rw [style_paint, withPaint, withTextGradient, ← textGradient?]
  cases l.textGradient? <;> rfl

theorem style_textColor : (l.style parent .text).1.text.color = l.textColor? := rfl

theorem textColor?_transparent :
    l.textColor? = some "transparent" ↔ ∃ p ∈ l.visibleFills, p.isGradient = true := by
  unfold textColor?
  split
  · rename_i gradient
    simpa using gradient
  · rename_i none
    constructor
    · intro color
      obtain ⟨p, _, own⟩ := Option.bind_eq_some_iff.1 color
      obtain ⟨c, _, text⟩ := Option.map_eq_some_iff.1 own
      exact absurd text (c.css_ne_transparent _)
    · intro gradient
      exact absurd (List.any_eq_true.2 gradient) none

theorem textColor?_solid (none : ¬ ∃ p, l.Topmost Paint.isGradient p) {p : Paint}
    (topmost : l.Topmost (·.kind == "SOLID") p) : l.textColor? = p.css? := by
  rw [exists_topmost_iff, ← List.any_eq_true] at none
  rw [textColor?, if_neg none, topmost_iff.2 topmost]
  rfl

theorem showsGradient_iff :
    l.ShowsGradient (l.style parent .text).1.box ↔
      ∃ p, l.Topmost Paint.isGradient p ∧ p.gradientStops ≠ [] := by
  have painted := l.style_textGradient parent
  have image : (l.style parent .text).1.box.backgroundImage = l.textGradient? :=
    congrArg BoxStyle.backgroundImage painted
  have clip : (l.style parent .text).1.box.backgroundClip = l.textGradient?.map fun _ => .text :=
    congrArg BoxStyle.backgroundClip painted
  have webkitClip :
      (l.style parent .text).1.box.webkitBackgroundClip = l.textGradient?.map fun _ => .text :=
    congrArg BoxStyle.webkitBackgroundClip painted
  have stops (p : Paint) : p.gradientStops ≠ [] ↔ p.gradient?.isSome = true := by
    simp [p.gradient?_isSome]
  simp only [stops]
  constructor
  · intro shows
    obtain ⟨p, _, _, given, same⟩ := shows.image
    obtain ⟨text, gradient⟩ := Option.isSome_iff_exists.1 given
    rw [image, gradient] at same
    obtain ⟨top, topmost, own⟩ := l.textGradient?_eq_some.1 same
    exact ⟨top, topmost, by simp [own]⟩
  · rintro ⟨top, topmost, given⟩
    obtain ⟨text, own⟩ := Option.isSome_iff_exists.1 given
    have gradient : l.textGradient? = some text := l.textGradient?_eq_some.2 ⟨top, topmost, own⟩
    constructor
    · exact ⟨top, topmost.mem.1, topmost.mem.2, given, by rw [image, gradient, own]⟩
    · rw [clip, gradient]
      rfl
    · rw [webkitClip, gradient]
      rfl

end Layer

/-- Text is transparent if it has a visible gradient fill, and a gradient shows through it if the topmost
one has stops. Text is painted as it should be exactly if that one, where there is one, has stops. -/
theorem text_painted_iff (l : Layer) (parent : Option ParentFrame) :
    let s := (l.style parent .text).1
    (s.text.color = some "transparent" ↔ ∃ p ∈ l.visibleFills, p.isGradient = true) ∧
    (l.ShowsGradient s.box ↔ ∃ p, l.Topmost Paint.isGradient p ∧ p.gradientStops ≠ []) ∧
    (l.PaintsText s ↔ ∀ p, l.Topmost Paint.isGradient p → p.gradientStops ≠ []) := by
  intro s
  have transparent : s.text.color = some "transparent" ↔ ∃ p, l.Topmost Paint.isGradient p := by
    rw [l.style_textColor, l.textColor?_transparent, Layer.exists_topmost_iff]
  have shows := l.showsGradient_iff parent
  refine ⟨l.textColor?_transparent, shows, ?_⟩
  constructor
  · intro painted p topmost
    have shown := painted.transparent.1 (transparent.2 ⟨p, topmost⟩)
    obtain ⟨q, other, stops⟩ := shows.1 shown
    rwa [topmost.unique other]
  · intro stops
    have gradients : (∃ p, l.Topmost Paint.isGradient p) ↔ l.ShowsGradient s.box := by
      rw [shows]
      constructor
      · rintro ⟨p, topmost⟩
        exact ⟨p, topmost, stops p topmost⟩
      · rintro ⟨p, topmost, _⟩
        exact ⟨p, topmost⟩
    constructor
    · exact transparent.trans gradients
    · intro none _ p topmost
      apply l.textColor?_solid
      · intro gradient
        obtain ⟨q, _, _, given, same⟩ := (gradients.1 gradient).image
        rw [← same, none] at given
        cases given
      · exact topmost

/-- A caption with a colour under a gradient fill without stops. -/
def fadedCaption : Layer where
  id := "1:1"
  kind := "TEXT"
  characters := some "Sale"
  fills := [{ kind := "SOLID", color := some ⟨0.0, 0.0, 0.0, 1.0⟩ }, { kind := "GRADIENT_LINEAR" }]

/-- The caption is transparent and nothing shows through it, where it should have its colour. -/
theorem fadedCaption_unseen :
    (fadedCaption.style none .text).1.text.color = some "transparent" ∧
    (fadedCaption.style none .text).1.box.backgroundImage = none ∧
    ¬ fadedCaption.PaintsText (fadedCaption.style none .text).1 := by
  refine ⟨rfl, rfl, ?_⟩
  intro painted
  obtain ⟨p, _, _, given, same⟩ := (painted.transparent.1 rfl).image
  rw [← same] at given
  cases given

end DesignMarkup
