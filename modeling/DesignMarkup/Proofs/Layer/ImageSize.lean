import DesignMarkup.Proofs.Style.Paint
/-!
The size of background images. It is set where a sheet is an image, for all sheets at once, and
follows the scale mode of the lowest image fill. That fill need not be a sheet: without an address it
is not, and then the size can be one that no image asks for.
-/
namespace DesignMarkup

def BoxStyle.sizing (s : BoxStyle) : Option String × Option String × Option BackgroundRepeat :=
  (s.backgroundSize, s.backgroundPosition, s.backgroundRepeat)

/-- What an image fill asks for. A browser repeats a background of its own accord. -/
def Paint.sizing (p : Paint) : Option String × Option String × Option BackgroundRepeat :=
  match p.scaleMode with
  | some "FIT" => (some "contain", some "center", some .once)
  | some "TILE" => (some "auto", some "center", none)
  | _ => (some "cover", some "center", some .once)

theorem Paint.sizing_set (p : Paint) : p.sizing ≠ (none, none, none) := by
  unfold sizing
  split <;> simp

theorem Paint.sizing_other {p : Paint} (fit : p.scaleMode ≠ some "FIT")
    (tile : p.scaleMode ≠ some "TILE") : p.sizing = (some "cover", some "center", some .once) := by
  unfold sizing
  split
  · contradiction
  · contradiction
  · rfl

namespace Layer
variable (l : Layer) (parent : Option ParentFrame)

/-- What is set of size, position and repetition is what an image fill asks for which is a sheet. -/
def SizesSheet (s : BoxStyle) : Prop :=
  s.sizing ≠ (none, none, none) →
    ∃ p ∈ l.visibleFills, ∃ url, p.kind = "IMAGE" ∧ p.imageRef = some url ∧
      .image url ∈ l.sheets ∧ s.sizing = p.sizing

theorem anyImage_iff : l.visibleFills.any Paint.isImage = true ↔ ∃ url, .image url ∈ l.sheets := by
  simp only [image_mem_sheets, List.any_eq_true, Paint.isImage, Bool.and_eq_true, beq_iff_eq,
    Option.isSome_iff_exists]
  constructor
  · rintro ⟨p, member, kind, url, address⟩
    exact ⟨url, p, member, kind, address⟩
  · rintro ⟨url, p, member, kind, address⟩
    exact ⟨p, member, kind, url, address⟩

theorem imageFill?_isSome (image : l.visibleFills.any Paint.isImage = true) :
    ∃ lowest, l.imageFill? = some lowest := by
  obtain ⟨p, member, isImage⟩ := List.any_eq_true.1 image
  have kind : (p.kind == "IMAGE") = true := by simp_all [Paint.isImage]
  rw [← Option.isSome_iff_exists, imageFill?, List.find?_isSome]
  exact ⟨p, member, kind⟩

theorem withImageSize_sizing (s : BoxStyle) {lowest : Paint} (first : l.imageFill? = some lowest) :
    (l.withImageSize s).prune.sizing = lowest.sizing := by
  have set : (l.withImageSize s).prune.sizing =
      (some (imageSize (lowest.scaleMode.getD "FILL")), some "center",
        dropIf .repeated (some (if lowest.scaleMode.getD "FILL" = "TILE" then .repeated else .once))) := by
    unfold withImageSize
    rw [first]
    rfl
  rw [set]
  by_cases fit : lowest.scaleMode = some "FIT"
  · rw [Paint.sizing, fit]
    rfl
  · by_cases tile : lowest.scaleMode = some "TILE"
    · rw [Paint.sizing, tile]
      rfl
    · have notFit : lowest.scaleMode.getD "FILL" ≠ "FIT" := by
        cases mode : lowest.scaleMode <;> simp_all
      have notTile : lowest.scaleMode.getD "FILL" ≠ "TILE" := by
        cases mode : lowest.scaleMode <;> simp_all
      rw [imageSize, if_neg notFit, if_neg notTile, if_neg notTile, Paint.sizing_other fit tile]
      rfl

theorem style_sizing_of_background :
    (l.style parent .container).1.box.sizing = (l.withBackground {}).prune.sizing := by
  have painted := congrArg BoxStyle.sizing (l.style_container parent)
  exact painted

theorem style_sizing (image : l.visibleFills.any Paint.isImage = true) {lowest : Paint}
    (first : l.imageFill? = some lowest) :
    (l.style parent .container).1.box.sizing = lowest.sizing := by
  have filled : l.sheets ≠ [] := by
    obtain ⟨url, member⟩ := l.anyImage_iff.1 image
    exact List.ne_nil_of_mem member
  rw [style_sizing_of_background, withBackground_paint, if_neg filled]
  dsimp only
  rw [if_pos image]
  exact l.withImageSize_sizing _ first

theorem style_unsized (imageless : ¬ l.visibleFills.any Paint.isImage = true) :
    (l.style parent .container).1.box.sizing = (none, none, none) := by
  rw [style_sizing_of_background, withBackground_paint]
  simp only [if_neg imageless]
  split <;> rfl

end Layer

/-- Size, position and repetition are set exactly if a sheet is an image. They are what some sheet asks for
exactly if one asks for the same as the lowest image fill, with or without an address. -/
theorem image_sized_iff (l : Layer) (parent : Option ParentFrame) :
    let s := (l.style parent .container).1.box
    s.backgroundImage = Sheet.stacked? l.sheets ∧
    (s.sizing ≠ (none, none, none) ↔ ∃ url, .image url ∈ l.sheets) ∧
    (∀ lowest, l.imageFill? = some lowest → (∃ url, .image url ∈ l.sheets) → s.sizing = lowest.sizing) ∧
    (l.SizesSheet s ↔ ∀ lowest, l.imageFill? = some lowest → (∃ url, .image url ∈ l.sheets) →
      ∃ p ∈ l.visibleFills, p.isImage = true ∧ p.sizing = lowest.sizing) := by
  intro s
  rw [← l.anyImage_iff]
  have asked (p : Paint) : p.isImage = true ↔ ∃ url, p.kind = "IMAGE" ∧ p.imageRef = some url := by
    simp [Paint.isImage, Option.isSome_iff_exists]
  refine ⟨l.style_backgroundImage parent, ?_, ?_, ?_⟩
  · constructor
    · intro set
      by_contra imageless
      exact set (l.style_unsized parent imageless)
    · intro image
      obtain ⟨lowest, first⟩ := l.imageFill?_isSome image
      rw [l.style_sizing parent image first]
      exact lowest.sizing_set
  · intro lowest first image
    exact l.style_sizing parent image first
  · constructor
    · intro sized lowest first image
      have own : s.sizing = lowest.sizing := l.style_sizing parent image first
      obtain ⟨p, member, url, kind, address, _, same⟩ := sized (own ▸ lowest.sizing_set)
      exact ⟨p, member, (asked p).2 ⟨url, kind, address⟩, same.symm.trans own⟩
    · intro alike set
      by_cases image : l.visibleFills.any Paint.isImage = true
      · obtain ⟨lowest, first⟩ := l.imageFill?_isSome image
        obtain ⟨p, member, isImage, same⟩ := alike lowest first image
        obtain ⟨url, kind, address⟩ := (asked p).1 isImage
        exact ⟨p, member, url, kind, address, l.image_mem_sheets.2 ⟨p, member, kind, address⟩,
          (l.style_sizing parent image first).trans same.symm⟩
      · exact absurd (l.style_unsized parent image) set

/-- A picture over a tiled one that has no address. -/
def picturesOver : Layer where
  id := "1:1"
  kind := "FRAME"
  fills := [{ kind := "IMAGE", scaleMode := some "TILE" },
    { kind := "IMAGE", imageRef := some "a.png", scaleMode := some "FIT" }]

/-- The only sheet is a picture that asks to be contained; it is tiled. -/
theorem picturesOver_tiled :
    (picturesOver.style none .container).1.box.backgroundImage = some "url(a.png)" ∧
    (picturesOver.style none .container).1.box.sizing = (some "auto", some "center", none) ∧
    ¬ picturesOver.SizesSheet (picturesOver.style none .container).1.box := by
  have tiled : (picturesOver.style none .container).1.box.sizing =
      (some "auto", some "center", none) := rfl
  refine ⟨rfl, tiled, ?_⟩
  intro sized
  obtain ⟨p, member, url, _, address, _, same⟩ := sized (by simp [tiled])
  rw [tiled] at same
  have either : p.imageRef = none ∨ p.scaleMode = some "FIT" := by
    have fill : p ∈ picturesOver.fills := (List.mem_filter.1 member).1
    simp only [picturesOver, List.mem_cons, List.not_mem_nil, or_false] at fill
    rcases fill with rfl | rfl
    · exact .inl rfl
    · exact .inr rfl
  rcases either with unaddressed | fit
  · simp [unaddressed] at address
  · rw [Paint.sizing, fit] at same
    simp at same

end DesignMarkup
