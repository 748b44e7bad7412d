import DesignMarkup.Proofs.Layer.Emitted
import DesignMarkup.Proofs.Layer.Path
import DesignMarkup.Proofs.Layer.Soundness
/-!
The image files of vector layers. A file is named after the slug of an id and nothing else, so two
layers share one exactly if their ids differ in separators alone.
-/
namespace DesignMarkup

namespace Text

/-- The characters are the same, or none of them is a letter or digit. -/
def SlugAlike (c d : Char) : Prop :=
  c = d ∨ c.isAlphanum = false ∧ d.isAlphanum = false

def separators (text : List Char) : List Char := text.filter (!·.isAlphanum)

theorem slugChar_eq_iff (c d : Char) : slugChar c = slugChar d ↔ SlugAlike c d := by
  have hyphen : '-'.isAlphanum = false := rfl
  unfold slugChar SlugAlike
  constructor
  · intro same
    by_cases first : c.isAlphanum = true
    · rw [if_pos first] at same
      split at same
      · exact .inl same
      · rw [same, hyphen] at first
        cases first
    · rw [if_neg first] at same
      split at same
      · rename_i second
        rw [← same, hyphen] at second
        cases second
      · rename_i second
        exact .inr ⟨eq_false_of_ne_true first, eq_false_of_ne_true second⟩
  · intro alike
    rcases alike with rfl | ⟨first, second⟩
    · rfl
    · rw [if_neg (ne_true_of_eq_false first), if_neg (ne_true_of_eq_false second)]

theorem slug_eq_iff {a b : String} :
    slug a = slug b ↔ List.Forall₂ SlugAlike a.toList b.toList := by
  rw [slug, slug, String.ofList_inj, ← List.forall₂_eq_eq_eq, List.forall₂_map_left_iff,
    List.forall₂_map_right_iff]
  simp only [slugChar_eq_iff]

theorem SlugAlike.isAlphanum_eq {c d : Char} (alike : SlugAlike c d) :
    c.isAlphanum = d.isAlphanum := by
  rcases alike with rfl | ⟨first, second⟩
  · rfl
  · rw [first, second]

theorem eq_of_slugAlike {a b : List Char} (alike : List.Forall₂ SlugAlike a b)
    (same : separators a = separators b) : a = b := by
  induction alike with
  | nil => rfl
  | @cons c d a b head _ ih =>
    have kind := head.isAlphanum_eq
    unfold separators at same ih
    by_cases kept : c.isAlphanum = true
    · rw [List.filter_cons_of_neg (by simp [kept]), List.filter_cons_of_neg (by simp [← kind, kept])]
        at same
      rcases head with rfl | ⟨none, _⟩
      · rw [ih same]
      · rw [kept] at none
        cases none
    · rw [List.filter_cons_of_pos (by simp [kept]), List.filter_cons_of_pos (by simp [← kind, kept])]
        at same
      obtain ⟨rfl, rest⟩ := List.cons.inj same
      rw [ih rest]

end Text

def Form.image? : Form → Option String
  | .asset url => some url
  | _ => none

namespace Layer

def vectorFile (l : Layer) : String := "assets/" ++ Text.slug l.id ++ ".svg"

theorem vectorFile_eq_iff {l m : Layer} : l.vectorFile = m.vectorFile ↔
    List.Forall₂ Text.SlugAlike l.id.toList m.id.toList := by
  rw [vectorFile, vectorFile, String.append_left_inj, String.append_right_inj, Text.slug_eq_iff]

theorem emit_asset? (c : Config) (parent : Option ParentFrame) (l : Layer) :
    (l.emit c parent).tree.asset? = (l.form c).image? := by
  rw [emit_eq]
  cases l.form c with
  | placeholder detail =>
    change (l.bareElement "div").asset? = none
    rw [Element.asset?, bareElement_content]
  | text => rfl
  | component m => exact l.emitComponent_asset? parent m
  | asset url => rfl
  | container => rfl

theorem assetUrl?_of_image? {c : Config} {l : Layer} {url : String}
    (shown : (l.form c).image? = some url) : l.assetUrl? = some url := by
  unfold form at shown
  split at shown
  · cases shown
  · split_ifs at shown
    · cases shown
    · cases shown
    · split at shown
      · cases shown
      · rename_i address
        rw [address]
        exact shown
      · cases shown

/-- The layer at the path is emitted as an image, and is a vector that no image fills. -/
structure Drawn (c : Config) (root : Layer) (path : List Nat) (l : Layer) (e : Element) : Prop where
  layer : root.below? path = some l
  element : elementOf? c root path = some e
  vector : l.isVector = true
  unfilled : l.imageFill?.bind (·.imageRef) = none
  shown : e.asset?.isSome = true

section
variable {c : Config} {root : Layer} {p q : List Nat} {l m : Layer} {e d : Element}

theorem Drawn.asset? (drawn : Drawn c root p l e) : e.asset? = some l.vectorFile := by
  obtain ⟨x, frame, found, rfl⟩ := elementOf?_emits drawn.element
  obtain rfl : l = x := Option.some.inj (drawn.layer.symm.trans found)
  have address : l.assetUrl? = some l.vectorFile := by
    rw [assetUrl?, drawn.unfilled]
    exact if_pos drawn.vector
  obtain ⟨url, shown⟩ := Option.isSome_iff_exists.1 drawn.shown
  rw [emit_asset?] at shown
  rw [emit_asset?, shown, ← assetUrl?_of_image? shown, address]

theorem Drawn.asset?_eq_iff (first : Drawn c root p l e) (second : Drawn c root q m d) :
    e.asset? = d.asset? ↔ List.Forall₂ Text.SlugAlike l.id.toList m.id.toList := by
  rw [first.asset?, second.asset?, Option.some_inj, vectorFile_eq_iff]

/-- Two drawn layers have one file exactly if their ids agree in every letter and digit, and have some
separator wherever the other has one. With the same separators in both, only equal ids share a file. -/
theorem vector_file_shared_iff (first : Drawn c root p l e) (second : Drawn c root q m d) :
    (e.asset? = d.asset? ↔ List.Forall₂ Text.SlugAlike l.id.toList m.id.toList) ∧
    (Text.separators l.id.toList = Text.separators m.id.toList →
      (e.asset? = d.asset? ↔ l.id = m.id)) := by
  refine ⟨first.asset?_eq_iff second, ?_⟩
  intro separated
  rw [first.asset?_eq_iff second]
  constructor
  · intro alike
    exact String.toList_inj.1 (Text.eq_of_slugAlike alike separated)
  · intro same
    rw [same]
    exact List.forall₂_same.2 fun c _ => .inl rfl

end

def icon (id : String) : Layer := placed "VECTOR" "Icon" id []

def iconSheet (ids : List String) : Layer := placed "FRAME" "Icons" "0:1" (ids.map icon)

/-- The element of an icon, which the sheet places wherever it stands in it. -/
def iconElement (id : String) : Element := ((icon id).emit {} (ParentFrame.of? (iconSheet []))).tree

theorem icon_drawn {ids : List String} {i : Nat} {id : String} (found : ids[i]? = some id) :
    Drawn {} (iconSheet ids) [i] (icon id) (iconElement id) := by
  have child : (iconSheet ids).children[i]? = some (icon id) := by
    change (ids.map icon)[i]? = some (icon id)
    rw [List.getElem?_map, found, Option.map_some]
  have opened : (iconSheet ids).opens {} = true := by cases ids <;> rfl
  constructor
  · rw [below?, child]
    rfl
  · unfold elementOf? transform
    rw [place?_bind, emittedAt?, if_pos opened, child]
    rfl
  · rfl
  · rfl
  · rw [iconElement, emit_asset?]
    rfl

theorem nested_icons_drawn_apart :
    Text.separators "I7:1;2:3".toList = Text.separators "I7:4;2:3".toList ∧
    (iconElement "I7:1;2:3").asset? ≠ (iconElement "I7:4;2:3").asset? := by
  have separated : Text.separators "I7:1;2:3".toList = Text.separators "I7:4;2:3".toList := by decide
  let ids := ["I7:1;2:3", "I7:4;2:3"]
  have first : Drawn {} (iconSheet ids) [0] _ _ := icon_drawn rfl
  have second : Drawn {} (iconSheet ids) [1] _ _ := icon_drawn rfl
  obtain ⟨_, distinct⟩ := vector_file_shared_iff first second
  exact ⟨separated, mt (distinct separated).1 (by decide)⟩

/-- The ids differ in a separator alone. -/
theorem icons_share_file :
    ¬ ∀ (c : Config) (root : Layer) (p q : List Nat) (l m : Layer) (e d : Element),
      (∀ x ∈ root.emitted c, x.id ≠ "") → (root.emittedIds c).Nodup → p ≠ q →
        Drawn c root p l e → Drawn c root q m d → e.asset? ≠ d.asset? := by
  intro distinct
  let ids := ["1:2", "1-2"]
  have emitted : (iconSheet ids).emitted {} = [iconSheet ids, icon "1:2", icon "1-2"] := rfl
  have named : ∀ x ∈ (iconSheet ids).emitted {}, x.id ≠ "" := by
    rw [emitted]
    simp [iconSheet, icon, placed]
  have listed : (iconSheet ids).emittedIds {} = ["0:1", "1:2", "1-2"] := rfl
  have nodup : ((iconSheet ids).emittedIds {}).Nodup := by
    rw [listed]
    decide
  have first : Drawn {} (iconSheet ids) [0] _ _ := icon_drawn rfl
  have second : Drawn {} (iconSheet ids) [1] _ _ := icon_drawn rfl
  have alike : List.Forall₂ Text.SlugAlike ['1', ':', '2'] ['1', '-', '2'] :=
    .cons (.inl rfl) (.cons (.inr ⟨rfl, rfl⟩) (.cons (.inl rfl) .nil))
  have shared := (first.asset?_eq_iff second).2 alike
  exact distinct {} _ [0] [1] _ _ _ _ named nodup (by decide) first second shared

end Layer
end DesignMarkup
