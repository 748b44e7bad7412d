import DesignMarkup.Proofs.Lists
import DesignMarkup.Proofs.Style.Paint
/-!
The order of fills. In a design a fill lies above those before it. A background is painted with the
first sheet of its image on top and its colour beneath all sheets. So the sheets lie as in the design,
and the colour does if it lies below every sheet there.
-/
namespace DesignMarkup

/-- The background shows these fills: the sheets one over the other, and the colour of the ground, which
stands alone where there is no sheet. -/
structure BoxStyle.ShowsFills (s : BoxStyle) (sheets : List Paint) (ground : Option Paint) : Prop where
  image : s.backgroundImage = Sheet.stacked? (sheets.filterMap Paint.sheet?)
  color : s.colors =
    if sheets = [] then (ground.bind Paint.css?, none) else (none, ground.bind Paint.css?)

namespace Layer
variable (l : Layer)

def placedFills : List (Paint × Nat) := l.fills.zipIdx.filter (·.1.visible)

def sheetFills : List (Paint × Nat) := l.placedFills.reverse.filter (·.1.isSheet)

def colorFill? : Option (Paint × Nat) := l.placedFills.reverse.find? (·.1.isColored)

/-- The fills of the background in the order in which they lie over each other when it is painted: the
sheets from the first one down, then the colour. -/
def paintedFills : List (Paint × Nat) := l.sheetFills ++ l.colorFill?.toList

def LiesAbove (upper lower : Paint × Nat) : Prop := lower.2 < upper.2

theorem placedFills_ascend : l.placedFills.Pairwise fun a b => a.2 < b.2 := by
  have places : (l.fills.zipIdx.map Prod.snd).Pairwise (· < ·) := by
    rw [List.zipIdx_map_snd]
    exact List.pairwise_lt_range'
  exact (List.pairwise_map.1 places).filter _

theorem map_placedFills : l.placedFills.map Prod.fst = l.visibleFills := by
  calc l.placedFills.map Prod.fst
      = (l.fills.zipIdx.map Prod.fst).filter (·.visible) := by
        rw [List.filter_map]
        rfl
    _ = l.visibleFills := by
        rw [List.zipIdx_map_fst]
        rfl

theorem sheetFills_descend : l.sheetFills.Pairwise LiesAbove := by
  apply List.Pairwise.filter
  rw [List.pairwise_reverse]
  exact l.placedFills_ascend

theorem mem_sheetFills {fill : Paint × Nat} :
    fill ∈ l.sheetFills ↔ fill ∈ l.placedFills ∧ fill.1.isSheet = true := by
  simp [sheetFills]

theorem colorFill?_topmost {fill : Paint × Nat} (color : l.colorFill? = some fill) :
    fill ∈ l.placedFills ∧ fill.1.isColored = true ∧
      ∀ other ∈ l.placedFills, other.1.isColored = true → other.2 ≤ fill.2 := by
  obtain ⟨colored, above, below, split, plain⟩ := List.find?_eq_some_iff_append.1 color
  have order := l.placedFills_ascend
  rw [← List.pairwise_reverse, split, List.pairwise_append, List.pairwise_cons] at order
  have among (other : Paint × Nat) :
      other ∈ l.placedFills ↔ other ∈ above ∨ other = fill ∨ other ∈ below := by
    rw [← List.mem_reverse, split, List.mem_append, List.mem_cons]
  refine ⟨(among fill).2 (.inr (.inl rfl)), colored, ?_⟩
  intro other member otherColored
  rcases (among other).1 member with higher | same | lower
  · have := plain other higher
    simp [otherColored] at this
  · exact Nat.le_of_eq (congrArg Prod.snd same)
  · exact Nat.le_of_lt (order.2.1.1 other lower)

theorem colorFill?_isSome {fill : Paint × Nat} (member : fill ∈ l.placedFills)
    (colored : fill.1.isColored = true) : ∃ top, l.colorFill? = some top := by
  apply Option.isSome_iff_exists.1
  rw [colorFill?, List.find?_isSome]
  exact ⟨fill, List.mem_reverse.2 member, colored⟩

theorem color_beneath_iff :
    (∀ sheet ∈ l.sheetFills, ∀ ground ∈ l.colorFill?.toList, LiesAbove sheet ground) ↔
      l.visibleFills.Pairwise fun lower upper => lower.isSheet = true → upper.isColored = false := by
  rw [← map_placedFills, List.pairwise_map, pairwise_iff_of_ascending l.placedFills_ascend]
  constructor
  · intro beneath lower inLower upper inUpper before isSheet
    by_contra colored
    have colored : upper.1.isColored = true := by simpa using colored
    obtain ⟨top, color⟩ := l.colorFill?_isSome inUpper colored
    have highest : upper.2 ≤ top.2 := (l.colorFill?_topmost color).2.2 upper inUpper colored
    have below : top.2 < lower.2 :=
      beneath lower (l.mem_sheetFills.2 ⟨inLower, isSheet⟩) top (by simp [color])
    omega
  · intro apart sheet inSheets ground isGround
    obtain ⟨inFills, isSheet⟩ := l.mem_sheetFills.1 inSheets
    obtain ⟨inGround, colored, _⟩ := l.colorFill?_topmost (by simpa using isGround)
    rcases Nat.lt_trichotomy sheet.2 ground.2 with before | same | after
    · have := apart sheet inFills ground inGround before isSheet
      simp [colored] at this
    · -- One place holds one fill, which cannot be both.
      have both : sheet.1 = ground.1 := by
        have atSheet := List.mem_zipIdx_iff_getElem?.1 (List.mem_filter.1 inFills).1
        have atGround := List.mem_zipIdx_iff_getElem?.1 (List.mem_filter.1 inGround).1
        rw [same, atGround] at atSheet
        exact (Option.some.inj atSheet).symm
      rw [both, Paint.isSheet_of_colored colored] at isSheet
      cases isSheet
    · exact after

theorem paintsFromTop_eq : l.paintsFromTop = l.placedFills.reverse.map Prod.fst := by
  rw [paintsFromTop, ← map_placedFills, List.map_reverse]

theorem map_sheetFills : l.sheetFills.map Prod.fst = l.paintsFromTop.filter Paint.isSheet := by
  rw [paintsFromTop_eq, List.filter_map]
  rfl

theorem sheets_of_fills : (l.sheetFills.map Prod.fst).filterMap Paint.sheet? = l.sheets := by
  rw [map_sheetFills, List.filterMap_filter, sheets]
  congr 1
  funext p
  rw [← p.sheet?_isSome]
  cases p.sheet? <;> rfl

theorem no_sheets_iff : l.sheetFills.map Prod.fst = [] ↔ l.sheets = [] := by
  rw [map_sheetFills, List.filter_eq_nil_iff, sheets, List.filterMap_eq_nil_iff]
  simp [← Paint.sheet?_isSome]

theorem color_of_fill : (l.colorFill?.map Prod.fst).bind Paint.css? = l.backgroundColor? := by
  rw [backgroundColor?_eq, paintsFromTop_eq, List.find?_map]
  rfl

theorem style_showsFills (parent : Option ParentFrame) :
    (l.style parent .container).1.box.ShowsFills (l.sheetFills.map Prod.fst)
      (l.colorFill?.map Prod.fst) := by
  constructor
  · rw [sheets_of_fills, style_backgroundImage]
  · rw [color_of_fill, style_colors]
    simp only [no_sheets_iff]

end Layer

/-- A background shows the sheets and the topmost colour. The sheets lie over each other as in the design.
With the colour they do exactly if no solid fill with a colour lies above a sheet in the design. -/
theorem fills_in_order_iff (l : Layer) (parent : Option ParentFrame) :
    (l.style parent .container).1.box.ShowsFills (l.sheetFills.map Prod.fst)
      (l.colorFill?.map Prod.fst) ∧
    l.sheetFills.Pairwise Layer.LiesAbove ∧
    (l.paintedFills.Pairwise Layer.LiesAbove ↔
      l.visibleFills.Pairwise fun lower upper =>
        lower.isSheet = true → upper.isColored = false) := by
  have sheets := l.sheetFills_descend
  refine ⟨l.style_showsFills parent, sheets, ?_⟩
  rw [← l.color_beneath_iff, Layer.paintedFills, List.pairwise_append]
  constructor
  · intro ordered
    exact ordered.2.2
  · intro beneath
    have lone : l.colorFill?.toList.Pairwise Layer.LiesAbove := by
      cases l.colorFill? <;> simp
    exact ⟨sheets, lone, beneath⟩

def blackedOut : Layer where
  id := "1:1"
  kind := "FRAME"
  fills := [{ kind := "IMAGE", imageRef := some "a.png" },
    { kind := "SOLID", color := some ⟨0.0, 0.0, 0.0, 1.0⟩ }]

/-- The black fill is the upper one in the design, and is painted beneath the picture. -/
theorem blackedOut_shows_picture :
    (blackedOut.style none .container).1.box.backgroundImage = some "url(a.png)" ∧
    (blackedOut.style none .container).1.box.backgroundColor = some ((⟨0.0, 0.0, 0.0, 1.0⟩ : Color).css none) ∧
    blackedOut.paintedFills.map Prod.snd = [0, 1] ∧
    ¬ blackedOut.paintedFills.Pairwise Layer.LiesAbove := by
  refine ⟨rfl, rfl, rfl, ?_⟩
  intro ordered
  have places : (blackedOut.paintedFills.map Prod.snd).Pairwise fun upper lower => lower < upper :=
    List.pairwise_map.2 ordered
  exact absurd places (by decide)

end DesignMarkup
