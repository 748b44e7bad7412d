import DesignMarkup.Proofs.Style.GradientText
import DesignMarkup.Proofs.Style.Paint
/-!
The sheets of a background read back from its text. A gradient ends with its last bracket. An address
is written as it is, so it may hold the end of an image and the beginning of the next sheet. Only then
can two lists of sheets have one text.
-/
namespace DesignMarkup
open Text

namespace Sheet

def Written : Sheet → Prop
  | image _ => True
  | gradient text => IsGradientText text.toList

def openings : List String := "url(" :: gradientNames.map (· ++ "(")

def Opens (text : String) : Prop := ∃ opening ∈ openings, opening.toList <+: text.toList

/-- Within the address an image ends and the next sheet begins. -/
def Breaks (url : String) : Prop := ∃ front more, url = front ++ "), " ++ more ∧ Opens more

theorem Breaks.blank {url : String} (breaks : Breaks url) : ' ' ∈ url.toList := by
  obtain ⟨front, more, rfl, _⟩ := breaks
  simp

/-- After the same sheets an image comes in either list, and the address of the second list is that of
the first one and then goes on with the next sheet. -/
inductive Swallows : List Sheet → List Sheet → Prop where
  | here {url more : String} {xs ys : List Sheet} (opens : Opens more) :
      Swallows (image url :: xs) (image (url ++ "), " ++ more) :: ys)
  | later {sheet : Sheet} {xs ys : List Sheet} (rest : Swallows xs ys) :
      Swallows (sheet :: xs) (sheet :: ys)

theorem Swallows.ne {xs ys : List Sheet} (h : Swallows xs ys) : xs ≠ ys := by
  induction h with
  | @here url more xs ys opens =>
    intro same
    have longer : url.length = (url ++ "), " ++ more).length := by
      rw [← (Sheet.image.inj (List.cons.inj same).1)]
    have separator : "), ".length = 3 := rfl
    rw [String.length_append, String.length_append, separator] at longer
    omega
  | later _ ih =>
    intro same
    exact ih (List.cons.inj same).2

theorem Swallows.breaks {xs ys : List Sheet} (h : Swallows xs ys) :
    ∃ url, image url ∈ ys ∧ Breaks url := by
  induction h with
  | @here url more xs ys opens => exact ⟨_, List.mem_cons_self, url, more, rfl, opens⟩
  | later _ ih =>
    obtain ⟨url, member, breaks⟩ := ih
    exact ⟨url, List.mem_cons_of_mem _ member, breaks⟩

def chars (sheet : Sheet) : List Char := sheet.css.toList

def charsAfter (sheets : List Sheet) : List Char := sheets.flatMap fun sheet => ", ".toList ++ sheet.chars

theorem image_chars (url : String) : (image url).chars = "url(".toList ++ (url.toList ++ [')']) := by
  simp [chars, css]

theorem charsAfter_cons (sheet : Sheet) (rest : List Sheet) :
    charsAfter (sheet :: rest) = ',' :: ' ' :: (sheet.chars ++ charsAfter rest) := by
  simp [charsAfter]

theorem opening_plain {opening : String} (isOpening : opening ∈ openings) : ')' ∉ opening.toList := by
  have all : openings.all fun opening => !opening.toList.contains ')' := by decide +kernel
  simpa using List.all_eq_true.1 all opening isOpening

theorem Written.opened {sheet : Sheet} (written : sheet.Written) :
    ∃ opening ∈ openings, opening.toList <+: sheet.chars := by
  cases sheet with
  | image url =>
    refine ⟨"url(", List.mem_cons_self, ?_⟩
    rw [image_chars]
    exact List.prefix_append _ _
  | gradient text =>
    obtain ⟨name, isName, inside, _, own⟩ := written
    refine ⟨name ++ "(", List.mem_cons_of_mem _ (List.mem_map_of_mem isName), ?_⟩
    rw [chars, css, own]
    exact ⟨inside ++ [')'], by simp⟩

theorem Written.opens {sheet : Sheet} (written : sheet.Written) {more s t : List Char}
    (same : sheet.chars ++ s = more ++ ')' :: t) : Opens (String.ofList more) := by
  obtain ⟨opening, isOpening, starts⟩ := written.opened
  refine ⟨opening, isOpening, ?_⟩
  rw [String.toList_ofList]
  have starts : opening.toList <+: more ++ ')' :: t := by
    rw [← same]
    exact starts.trans (List.prefix_append _ _)
  rcases List.prefix_or_prefix_of_prefix starts (List.prefix_append more _) with inside | beyond
  · exact inside
  · obtain ⟨part, own⟩ := beyond
    cases part with
    | nil => exact ⟨[], by simpa using own.symm⟩
    | cons c part =>
      rw [← own, List.prefix_append_right_inj, List.cons_prefix_cons] at starts
      refine absurd ?_ (opening_plain isOpening)
      rw [← own, starts.1]
      simp

theorem gradient_ne_image {text : String} (written : IsGradientText text.toList) (url : String)
    (s t : List Char) : text.toList ++ s ≠ (image url).chars ++ t := by
  obtain ⟨name, isName, inside, _, own⟩ := written
  intro same
  have first : (text.toList ++ s).head? = some 'u' := by
    simp [same, image_chars]
  rw [own] at first
  simp only [gradientNames, List.mem_cons, List.not_mem_nil, or_false] at isName
  rcases isName with rfl | rfl | rfl
  · cases first
  · cases first
  · cases first

/-- Where sheets come after one another, a closing bracket with the text of sheets behind it stands after
the two characters that come between sheets, and after the opening of the first sheet. -/
theorem opens_of_charsAfter {xs ys : List Sheet} (inXs : ∀ sheet ∈ xs, sheet.Written)
    {before : List Char} (same : charsAfter xs = before ++ ')' :: charsAfter ys) :
    ∃ inner, before = ", ".toList ++ inner ∧ Opens (String.ofList inner) := by
  obtain ⟨following, rest, rfl⟩ : ∃ following rest, xs = following :: rest := by
    cases xs with
    | nil => simp [charsAfter] at same
    | cons following rest => exact ⟨following, rest, rfl⟩
  rw [charsAfter_cons] at same
  -- A bracket is neither of the two characters, so these belong to the text before it.
  match before, same with
  | [], same => simp at same
  | [_], same => simp at same
  | first :: second :: inner, same =>
    simp only [List.cons_append, List.cons.injEq] at same
    obtain ⟨rfl, rfl, own⟩ := same
    exact ⟨inner, rfl, (inXs following List.mem_cons_self).opens own⟩

theorem image_extends {url other : String} {xs ys : List Sheet} (inXs : ∀ sheet ∈ xs, sheet.Written)
    {more : List Char} (longer : (image other).chars = (image url).chars ++ more)
    (same : charsAfter xs = more ++ charsAfter ys) :
    (url = other ∧ more = []) ∨ Swallows (image url :: xs) (image other :: ys) := by
  rw [image_chars, image_chars, List.append_assoc, List.append_cancel_left_eq,
    List.append_assoc] at longer
  rcases List.eq_nil_or_concat more with rfl | ⟨between, last, rfl⟩
  · rw [List.append_nil, List.append_cancel_right_eq, String.toList_inj] at longer
    exact .inl ⟨longer.symm, rfl⟩
  · right
    have ends : other.toList ++ [')'] = (url.toList ++ ')' :: between) ++ [last] := by
      simpa using longer
    obtain ⟨address, closing⟩ := List.append_inj' ends rfl
    obtain rfl : ')' = last := by simpa using closing
    rw [List.concat_eq_append, List.append_assoc] at same
    obtain ⟨inner, rfl, opens⟩ := opens_of_charsAfter inXs same
    have written : other = url ++ "), " ++ String.ofList inner := by
      rw [← String.toList_inj, address]
      simp
    rw [written]
    exact .here opens

theorem extends_cases {x y : Sheet} (isX : x.Written) (isY : y.Written) {xs ys : List Sheet}
    (inXs : ∀ sheet ∈ xs, sheet.Written) {more : List Char} (longer : y.chars = x.chars ++ more)
    (same : charsAfter xs = more ++ charsAfter ys) :
    (x = y ∧ charsAfter xs = charsAfter ys) ∨ Swallows (x :: xs) (y :: ys) := by
  cases x with
  | gradient text =>
    cases y with
    | image url =>
      refine absurd ?_ (gradient_ne_image isX url more [])
      rw [List.append_nil]
      exact longer.symm
    | gradient other =>
      have split : text.toList ++ more = other.toList ++ [] := by
        rw [List.append_nil]
        exact longer.symm
      obtain ⟨texts, rfl⟩ := gradientText_split isX isY split
      rw [String.toList_inj.1 texts]
      exact .inl ⟨rfl, same⟩
  | image url =>
    cases y with
    | gradient text =>
      refine absurd ?_ (gradient_ne_image isY url [] more)
      rw [List.append_nil]
      exact longer
    | image other =>
      rcases image_extends inXs longer same with ⟨rfl, rfl⟩ | swallows
      · exact .inl ⟨rfl, same⟩
      · exact .inr swallows

theorem step_cases {x y : Sheet} {xs ys : List Sheet} (inXs : ∀ sheet ∈ x :: xs, sheet.Written)
    (inYs : ∀ sheet ∈ y :: ys, sheet.Written)
    (same : x.chars ++ charsAfter xs = y.chars ++ charsAfter ys) :
    (x = y ∧ charsAfter xs = charsAfter ys) ∨
      Swallows (x :: xs) (y :: ys) ∨ Swallows (y :: ys) (x :: xs) := by
  rw [List.forall_mem_cons] at inXs inYs
  rcases List.append_eq_append_iff.1 same with ⟨more, longer, rest⟩ | ⟨more, longer, rest⟩
  · rcases extends_cases inXs.1 inYs.1 inXs.2 longer rest with alike | swallows
    · exact .inl alike
    · exact .inr (.inl swallows)
  · rcases extends_cases inYs.1 inXs.1 inYs.2 longer rest with ⟨alike, after⟩ | swallows
    · exact .inl ⟨alike.symm, after.symm⟩
    · exact .inr (.inr swallows)

/-- Lists of sheets with one text are the same up to an image that swallows what follows in the other. -/
theorem eq_or_swallows {x y : Sheet} {xs ys : List Sheet} (inXs : ∀ sheet ∈ x :: xs, sheet.Written)
    (inYs : ∀ sheet ∈ y :: ys, sheet.Written)
    (same : x.chars ++ charsAfter xs = y.chars ++ charsAfter ys) :
    x :: xs = y :: ys ∨ Swallows (x :: xs) (y :: ys) ∨ Swallows (y :: ys) (x :: xs) := by
  induction xs generalizing x y ys with
  | nil =>
    rcases step_cases inXs inYs same with ⟨rfl, after⟩ | apart
    · cases ys with
      | nil => exact .inl rfl
      | cons z ys => simp [charsAfter] at after
    · exact .inr apart
  | cons z xs ih =>
    rcases step_cases inXs inYs same with ⟨rfl, after⟩ | apart
    · cases ys with
      | nil => simp [charsAfter] at after
      | cons w ys =>
        simp only [charsAfter_cons, List.cons.injEq, true_and] at after
        rw [List.forall_mem_cons] at inXs inYs
        rcases ih inXs.2 inYs.2 after with rest | swallows | swallows
        · exact .inl (by rw [rest])
        · exact .inr (.inl (.later swallows))
        · exact .inr (.inr (.later swallows))
    · exact .inr apart

theorem stacked?_cons (sheet : Sheet) (rest : List Sheet) :
    (stacked? (sheet :: rest)).map String.toList = some (sheet.chars ++ charsAfter rest) := by
  have each : String.toList ∘ css = chars := rfl
  rw [stacked?, if_neg (List.cons_ne_nil _ _), Option.map_some, String.toList_intercalate,
    List.map_map, each, List.map_cons, intercalate_cons, List.flatMap_map]
  rfl

theorem eq_or_swallows_of_stacked {xs ys : List Sheet} (inXs : ∀ sheet ∈ xs, sheet.Written)
    (inYs : ∀ sheet ∈ ys, sheet.Written) (same : stacked? xs = stacked? ys) :
    xs = ys ∨ Swallows xs ys ∨ Swallows ys xs := by
  cases xs with
  | nil =>
    cases ys with
    | nil => exact .inl rfl
    | cons y ys => simp [stacked?] at same
  | cons x xs =>
    cases ys with
    | nil => simp [stacked?] at same
    | cons y ys =>
      have texts := congrArg (Option.map String.toList) same
      rw [stacked?_cons, stacked?_cons, Option.some.injEq] at texts
      exact eq_or_swallows inXs inYs texts

end Sheet

theorem Layer.sheets_written (l : Layer) : ∀ sheet ∈ l.sheets, sheet.Written := by
  intro sheet member
  obtain ⟨p, _, own⟩ := l.mem_sheets.1 member
  unfold Paint.sheet? at own
  split at own
  · obtain ⟨url, _, rfl⟩ := Option.map_eq_some_iff.1 own
    trivial
  · split at own
    · obtain ⟨text, gradient, rfl⟩ := Option.map_eq_some_iff.1 own
      exact Paint.gradient?_isGradientText gradient
    · cases own

/-- Backgrounds of one image have the same sheets if no address holds the end of an image with the beginning
of a sheet after it. In general they do exactly if, behind the sheets that they share, neither has an
address which takes in the next sheets of the other. -/
theorem sheets_read_back {l m : Layer} {p q : Option ParentFrame}
    (same : (l.style p .container).1.box.backgroundImage =
      (m.style q .container).1.box.backgroundImage) :
    ((∀ url, .image url ∈ l.sheets ∨ .image url ∈ m.sheets → ¬ Sheet.Breaks url) →
      l.sheets = m.sheets) ∧
    (l.sheets = m.sheets ↔
      ¬ Sheet.Swallows l.sheets m.sheets ∧ ¬ Sheet.Swallows m.sheets l.sheets) := by
  rw [l.style_backgroundImage, m.style_backgroundImage] at same
  have either := Sheet.eq_or_swallows_of_stacked l.sheets_written m.sheets_written same
  constructor
  · intro sound
    rcases either with alike | swallows | swallows
    · exact alike
    · obtain ⟨url, member, breaks⟩ := swallows.breaks
      exact absurd breaks (sound url (.inr member))
    · obtain ⟨url, member, breaks⟩ := swallows.breaks
      exact absurd breaks (sound url (.inl member))
  · constructor
    · intro alike
      exact ⟨fun swallows => swallows.ne alike, fun swallows => swallows.ne alike.symm⟩
    · rintro ⟨forth, back⟩
      rcases either with alike | swallows | swallows
      · exact alike
      · exact absurd swallows forth
      · exact absurd swallows back

/-- A picture under a gradient, and more fills below. The address has brackets and a comma. -/
def tintedPicture (below : List Paint) : Layer where
  id := "1:1"
  kind := "FRAME"
  fills := below ++ [{ kind := "IMAGE", imageRef := some "b(1),(2).png" },
    { kind := "GRADIENT_LINEAR", gradientStops := [⟨⟨0.0, 0.0, 1.0, 1.0⟩, 0.0⟩] }]

def hiddenPicture : Paint where
  kind := "IMAGE"
  visible := false
  imageRef := some "c.png"

theorem tinted_picture_read_back :
    ((tintedPicture []).style none .container).1.box.backgroundImage =
      ((tintedPicture [hiddenPicture]).style none .container).1.box.backgroundImage ∧
    (tintedPicture []).sheets = (tintedPicture [hiddenPicture]).sheets := by
  have same : ((tintedPicture []).style none .container).1.box.backgroundImage =
      ((tintedPicture [hiddenPicture]).style none .container).1.box.backgroundImage := rfl
  have one : ∃ text, (tintedPicture []).sheets = [.gradient text, .image "b(1),(2).png"] := ⟨_, rfl⟩
  have two : ∃ text, (tintedPicture [hiddenPicture]).sheets = [.gradient text, .image "b(1),(2).png"] :=
    ⟨_, rfl⟩
  obtain ⟨_, first⟩ := one
  obtain ⟨_, second⟩ := two
  refine ⟨same, (sheets_read_back same).1 ?_⟩
  intro url member breaks
  have address : url = "b(1),(2).png" := by simpa [first, second] using member
  have blank := breaks.blank
  rw [address] at blank
  exact absurd blank (by decide)

def picturesAt (addresses : List String) : Layer where
  id := "1:1"
  kind := "FRAME"
  fills := addresses.map fun url => { kind := "IMAGE", imageRef := some url }

/-- One picture is emitted in the one case and two in the other, and the image is the same. -/
theorem one_image_of_two_lists :
    ((picturesAt ["a), url(b"]).style none .container).1.box.backgroundImage = some "url(a), url(b)" ∧
    ((picturesAt ["b", "a"]).style none .container).1.box.backgroundImage = some "url(a), url(b)" ∧
    (picturesAt ["a), url(b"]).sheets = [.image "a), url(b"] ∧
    (picturesAt ["b", "a"]).sheets = [.image "a", .image "b"] ∧
    (picturesAt ["a), url(b"]).sheets ≠ (picturesAt ["b", "a"]).sheets := by
  refine ⟨rfl, rfl, rfl, rfl, ?_⟩
  decide

end DesignMarkup
