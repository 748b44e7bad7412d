import DesignMarkup.Proofs.Style.Normal
/-!
Colours that meet in a background. Of the two places for a colour one counts, beneath an image the one
and else the other. Putting the background in order brings a colour there from whichever place it is in;
a colour is lost only where another one is kept, and the collision says so.
-/
namespace DesignMarkup

def ColorSlot.other : ColorSlot → ColorSlot
  | background => backgroundColor
  | backgroundColor => background

namespace BoxStyle
variable {s : BoxStyle}

def color (s : BoxStyle) : ColorSlot → Option String
  | .background => s.background
  | .backgroundColor => s.backgroundColor

/-- Where a colour belongs: beneath the image, or alone. -/
def home (s : BoxStyle) : ColorSlot :=
  if s.backgroundImage.isSome then .backgroundColor else .background

def clash? (s : BoxStyle) : Option BackgroundCollision :=
  match s.color s.home, s.color s.home.other with
  | some kept, some value => if kept = value then none else some ⟨s.home, s.home.other, value⟩
  | _, _ => none

theorem color_cases (s : BoxStyle) (slot : ColorSlot) :
    s.color slot = s.color s.home ∨ s.color slot = s.color s.home.other := by
  unfold home
  cases slot <;> cases s.backgroundImage <;> simp [ColorSlot.other]

theorem normalizeBackground_home (s : BoxStyle) :
    s.normalizeBackground.1.color s.home = (s.color s.home).or (s.color s.home.other) := by
  unfold normalizeBackground home
  split
  all_goals simp [color, ColorSlot.other, *]

theorem normalizeBackground_collision (s : BoxStyle) : s.normalizeBackground.2 = s.clash? := by
  unfold normalizeBackground clash? home
  split
  all_goals simp [color, ColorSlot.other, *]

theorem normalizeBackground_elsewhere (s : BoxStyle) :
    { s.normalizeBackground.1 with
      background := s.background, backgroundColor := s.backgroundColor } = s := by
  obtain ⟨background, backgroundColor, same⟩ := s.normalizeBackground_eq
  rw [same]

theorem of_clash? {c : BackgroundCollision} (told : s.clash? = some c) :
    ∃ kept, s.color s.home = some kept ∧ s.color s.home.other = some c.value ∧ kept ≠ c.value ∧
      c.kept = s.home ∧ c.discarded = s.home.other := by
  unfold clash? at told
  split at told
  · rename_i kept value here there
    split at told
    · cases told
    · rename_i differs
      cases told
      exact ⟨kept, here, there, differs, rfl, rfl⟩
  · cases told

theorem eq_of_quiet {a b : String} (quiet : s.clash? = none) (here : s.color s.home = some a)
    (there : s.color s.home.other = some b) : a = b := by
  by_contra differs
  simp [clash?, here, there, differs] at quiet

theorem clash?_isSome : s.clash?.isSome ↔
    ∃ a b, s.background = some a ∧ s.backgroundColor = some b ∧ a ≠ b := by
  constructor
  · intro told
    obtain ⟨c, told⟩ := Option.isSome_iff_exists.1 told
    obtain ⟨kept, here, there, differs, -⟩ := of_clash? told
    cases home : s.home with
    | background =>
      rw [home] at here there
      exact ⟨kept, c.value, here, there, differs⟩
    | backgroundColor =>
      rw [home] at here there
      exact ⟨c.value, kept, there, here, differs.symm⟩
  · rintro ⟨a, b, first, second, differs⟩
    by_contra silent
    have quiet : s.clash? = none := Option.not_isSome_iff_eq_none.1 silent
    cases home : s.home with
    | background => exact differs (eq_of_quiet quiet (home ▸ first) (home ▸ second))
    | backgroundColor => exact differs (eq_of_quiet quiet (home ▸ second) (home ▸ first)).symm

theorem shown_of_quiet {slot : ColorSlot} {color : String} (quiet : s.clash? = none)
    (shown : s.color slot = some color) :
    (s.color s.home).or (s.color s.home.other) = some color := by
  rcases s.color_cases slot with here | there
  · rw [← here, shown, Option.some_or]
  · rw [there] at shown
    cases home : s.color s.home with
    | none => rw [Option.none_or, shown]
    | some kept => rw [Option.some_or, eq_of_quiet quiet home shown]

end BoxStyle

/-- A background that is put in order has a colour only beneath an image or alone. Two different colours,
and nothing else, make a collision; it names the place whose colour stays as it is, and the other one
with the colour that it had. Without a collision all colours are where a colour belongs. Nothing else
changes, and doing it again changes nothing at all. -/
theorem colors_kept_or_reported (s : BoxStyle) :
    let t := s.normalizeBackground.1
    let collision := s.normalizeBackground.2
    t.Settled ∧
    (collision.isSome ↔ ∃ a b, s.background = some a ∧ s.backgroundColor = some b ∧ a ≠ b) ∧
    (∀ c ∈ collision, c.kept = s.home ∧ c.discarded = s.home.other ∧
      t.color c.kept = s.color c.kept ∧ s.color c.discarded = some c.value) ∧
    (collision = none → ∀ slot, ∀ color ∈ s.color slot, t.color s.home = some color) ∧
    { t with background := s.background, backgroundColor := s.backgroundColor } = s ∧
    t.normalizeBackground = (t, none) := by
  intro t collision
  have settled : t.Settled := s.normalizeBackground_settles
  have home : t.color s.home = (s.color s.home).or (s.color s.home.other) :=
    s.normalizeBackground_home
  have reported : collision = s.clash? := s.normalizeBackground_collision
  refine ⟨settled, ?_, ?_, ?_, s.normalizeBackground_elsewhere,
    BoxStyle.normalizeBackground_of_settled settled⟩
  · rw [reported, BoxStyle.clash?_isSome]
  · intro c told
    rw [reported] at told
    obtain ⟨color, kept, lost, -, keptSlot, discarded⟩ := BoxStyle.of_clash? told
    rw [keptSlot, discarded, home, kept]
    exact ⟨rfl, rfl, rfl, lost⟩
  · intro quiet slot color shown
    rw [reported] at quiet
    rw [home]
    exact BoxStyle.shown_of_quiet quiet shown

end DesignMarkup
