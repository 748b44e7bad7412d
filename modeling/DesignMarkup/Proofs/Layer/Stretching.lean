import DesignMarkup.Proofs.Style.Background
import Mathlib.Tactic.ByContra
/-!
Layers that an auto layout stretches. Such a layer takes its dimension across the layout from there, so
it should be without that one and keep the other. What is left out is the height of every stretched
layer: in a column, and for a layer out of the flow, which no layout stretches, this is one that the
element needs.
-/
namespace DesignMarkup
open Decimal (round2)

namespace Layer

/-- An auto layout stretches only what is in its flow. -/
def fillsAcross (l : Layer) : Bool := !l.isAbsolute && l.isStretched

/-- The style has the size of the layer but for what the layout above stretches: the width in a column
and the height in a row. If something is left out, the style says that it is stretched. -/
structure SizedIn (above l : Layer) (own : Bounds) (s : Style) : Prop where
  width : s.box.width =
    if l.fillsAcross ∧ above.layoutMode = some "VERTICAL" then none else some (round2 own.width)
  height : s.box.height =
    if l.fillsAcross ∧ above.layoutMode = some "HORIZONTAL" then none else some (round2 own.height)
  stretch : s.box.width = none ∨ s.box.height = none → s.flex.alignSelf = some .stretch

section
variable {above l : Layer} {own : Bounds}

theorem frame_of_autoLayout {origin : Bounds} (placed : above.bounds = some origin)
    (lays : above.isAutoLayout = true) :
    ParentFrame.of? above = some ⟨origin, true⟩ := by
  rw [ParentFrame.of?, placed, lays]
  rfl

theorem size_in_layout (origin : Bounds) (located : l.bounds = some own) {target : StyleTarget}
    (shape : target ≠ .text) :
    (l.style (some ⟨origin, true⟩) target).1.box.width = some (round2 own.width) ∧
      (l.style (some ⟨origin, true⟩) target).1.box.height =
        if l.isStretched then none else some (round2 own.height) := by
  have extent := (l.style_extent (some ⟨origin, true⟩) target).trans
    (l.boxStyle_extent (some ⟨origin, true⟩) target)
  obtain ⟨width, rest⟩ := Prod.mk.inj extent
  obtain ⟨height, -⟩ := Prod.mk.inj rest
  simp only [withSize, located, if_neg shape] at width height
  exact ⟨width, height⟩

theorem alignSelf_in_layout (l : Layer) (origin : Bounds) (target : StyleTarget) :
    (l.style (some ⟨origin, true⟩) target).1.flex.alignSelf =
      if l.fillsAcross then some .stretch else none := by
  have pruned : (l.style (some ⟨origin, true⟩) target).1.flex.alignSelf =
      dropIf .auto (l.flexStyle (some ⟨origin, true⟩)).alignSelf := rfl
  rw [pruned, flexStyle, fillsAcross]
  cases l.isAbsolute with
  | true =>
    -- Out of the flow there is only what the layer lays out itself.
    cases l.isAutoLayout <;> rfl
  | false => cases l.isStretched <;> rfl

end

end Layer

/-- In an auto layout a layer keeps its width, and its height unless it is stretched; the style says so
only of what is in the flow. So what is left out is what the layout gives exactly if every stretched
layer is in the flow of a row. -/
theorem stretched_size_iff {above l : Layer} {origin own : Bounds}
    (placed : above.bounds = some origin) (lays : above.isAutoLayout = true)
    (located : l.bounds = some own) {target : StyleTarget} (shape : target ≠ .text) :
    let s := (l.style (ParentFrame.of? above) target).1
    s.box.width = some (round2 own.width) ∧
    s.box.height = (if l.isStretched then none else some (round2 own.height)) ∧
    s.flex.alignSelf = (if l.fillsAcross then some .stretch else none) ∧
    (Layer.SizedIn above l own s ↔
      (l.isStretched = true → l.isAbsolute = false ∧ above.layoutMode = some "HORIZONTAL")) := by
  rw [Layer.frame_of_autoLayout placed lays]
  intro s
  obtain ⟨width, height⟩ := Layer.size_in_layout origin located shape
  have alignSelf := l.alignSelf_in_layout origin target
  refine ⟨width, height, alignSelf, ?_⟩
  constructor
  · intro sized stretched
    have lost : s.box.height = none := height.trans (if_pos stretched)
    have fills : l.fillsAcross = true := by
      have told := alignSelf.symm.trans (sized.stretch (.inr lost))
      by_contra rests
      rw [if_neg rests] at told
      exact nomatch told
    have across := lost.symm.trans sized.height
    have inFlow : l.isAbsolute = false := by simpa [Layer.fillsAcross, stretched] using fills
    refine ⟨inFlow, ?_⟩
    by_contra column
    rw [if_neg fun both => column both.2] at across
    exact nomatch across
  · intro fits
    cases stretched : l.isStretched with
    | false =>
      have rests : l.fillsAcross = false := by simp [Layer.fillsAcross, stretched]
      have kept : s.box.height = some (round2 own.height) := by simpa [stretched] using height
      constructor
      · simpa [rests] using width
      · simpa [rests] using kept
      · rintro (none | none)
        · exact nomatch width.symm.trans none
        · exact nomatch kept.symm.trans none
    | true =>
      obtain ⟨inFlow, isRow⟩ := fits stretched
      have fills : l.fillsAcross = true := by simp [Layer.fillsAcross, stretched, inFlow]
      constructor
      · simpa [isRow] using width
      · simpa [isRow, fills, stretched] using height
      · intro _
        exact alignSelf.trans (if_pos fills)

def stretchedItem (positioning : Option String) : Layer where
  id := "1:2"
  kind := "RECTANGLE"
  bounds := some ⟨0.0, 0.0, 40.0, 20.0⟩
  layoutAlign := some "STRETCH"
  layoutPositioning := positioning

def listOf (mode : String) : Layer where
  id := "1:1"
  kind := "FRAME"
  bounds := some ⟨0.0, 0.0, 40.0, 80.0⟩
  layoutMode := some mode
  children := [stretchedItem none, stretchedItem (some "ABSOLUTE")]

theorem row_item_sized :
    (listOf "HORIZONTAL").bounds = some ⟨0.0, 0.0, 40.0, 80.0⟩ ∧
    (listOf "HORIZONTAL").isAutoLayout = true ∧
    (stretchedItem none).bounds = some ⟨0.0, 0.0, 40.0, 20.0⟩ ∧
    Layer.SizedIn (listOf "HORIZONTAL") (stretchedItem none) ⟨0.0, 0.0, 40.0, 20.0⟩
      ((stretchedItem none).style (ParentFrame.of? (listOf "HORIZONTAL")) .container).1 := by
  have placed : (listOf "HORIZONTAL").bounds = some ⟨0.0, 0.0, 40.0, 80.0⟩ := rfl
  have lays : (listOf "HORIZONTAL").isAutoLayout = true := rfl
  have located : (stretchedItem none).bounds = some ⟨0.0, 0.0, 40.0, 20.0⟩ := rfl
  have shape : StyleTarget.container ≠ .text := by decide
  have sized := (stretched_size_iff placed lays located shape).2.2.2
  exact ⟨placed, lays, located, sized.2 fun _ => ⟨rfl, rfl⟩⟩

/-- In a column the item keeps its width and loses its height. Out of the flow of a row it loses its
height, too, and is not stretched. -/
theorem items_lose_height :
    (let s := ((stretchedItem none).style (ParentFrame.of? (listOf "VERTICAL")) .container).1
     s.box.width = some (round2 40.0) ∧ s.box.height = none) ∧
    (let s := ((stretchedItem (some "ABSOLUTE")).style (ParentFrame.of? (listOf "HORIZONTAL"))
        .container).1
     s.box.height = none ∧ s.flex.alignSelf = none) ∧
    ¬ Layer.SizedIn (listOf "VERTICAL") (stretchedItem none) ⟨0.0, 0.0, 40.0, 20.0⟩
      ((stretchedItem none).style (ParentFrame.of? (listOf "VERTICAL")) .container).1 ∧
    ¬ Layer.SizedIn (listOf "HORIZONTAL") (stretchedItem (some "ABSOLUTE")) ⟨0.0, 0.0, 40.0, 20.0⟩
      ((stretchedItem (some "ABSOLUTE")).style (ParentFrame.of? (listOf "HORIZONTAL"))
        .container).1 := by
  refine ⟨⟨rfl, rfl⟩, ⟨rfl, rfl⟩, ?_, ?_⟩
  · intro sized
    exact absurd sized.height (by simp [listOf]; exact nofun)
  · intro sized
    exact absurd (sized.stretch (.inr rfl)) nofun

end DesignMarkup
