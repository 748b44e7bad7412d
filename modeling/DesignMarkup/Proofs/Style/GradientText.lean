import DesignMarkup.Proofs.Style.Printed
import DesignMarkup.Proofs.Text.Brackets
import DesignMarkup.Proofs.Url.Segments
import DesignMarkup.Style.Resolve
/-!
The text of gradients: a name, and in brackets colours at places. Colours have brackets of their own, but
balanced ones, so the text of a gradient shows where it ends.
-/
namespace DesignMarkup
open Text

theorem isNoBracket_of_scalar {c : Char} (scalar : Json.isScalarChar c = true) :
    isNoBracket c = true := by
  rw [isNoBracket, Bool.and_eq_true, bne_iff_ne, bne_iff_ne]
  constructor
  · rintro rfl
    exact absurd scalar (by decide)
  · rintro rfl
    exact absurd scalar (by decide)

theorem Decimal.measureText_balanced (x : Float) : Balanced (measureText x).toList :=
  balanced_of_plain fun c member => isNoBracket_of_scalar ((measureText_token x).chars c member)

theorem digits_balanced (n : Nat) : Balanced (Nat.toDigits 10 n) :=
  balanced_of_plain fun c member =>
    isNoBracket_of_scalar ((Decimal.allDigits_toDigits n).scalar c member)

theorem comma_balanced : Balanced ", ".toList := balanced_of_plain (List.all_eq_true.1 rfl)

namespace Color

theorem hexByte_plain (n : Nat) : ∀ c ∈ (hexByte n).toList, isNoBracket c = true := by
  have digits : ∀ c ∈ lowerHex n, isNoBracket c = true := by
    intro c member
    obtain ⟨d, bound, rfl⟩ := Url.digit_of_mem_toDigits member
    have all : ∀ d : Fin 16, isNoBracket (Nat.digitChar d) = true := by decide
    exact all ⟨d, bound⟩
  rw [hexByte, String.toList_ofList]
  split
  · rw [List.forall_mem_cons]
    exact ⟨by decide, digits⟩
  · exact digits

theorem hex_balanced (c : Color) : Balanced c.hex.toList := by
  apply balanced_of_plain
  unfold hex
  simp only [String.toList_append, List.forall_mem_append]
  exact ⟨⟨⟨List.all_eq_true.1 rfl, hexByte_plain _⟩, hexByte_plain _⟩, hexByte_plain _⟩

theorem css_balanced (c : Color) (opacity : Option Float) : Balanced (c.css opacity).toList := by
  unfold css
  dsimp only
  split
  · exact c.hex_balanced
  · have channels : ∀ piece ∈ [toString (byte c.r), toString (byte c.g), toString (byte c.b),
        Decimal.measureText (clamp (c.a * opacity.getD 1.0))].map String.toList, Balanced piece := by
      simp [digits_balanced, Decimal.measureText_balanced]
    have name : Balanced "rgba".toList := balanced_of_plain (List.all_eq_true.1 rfl)
    have written := name.append (.group (comma_balanced.intercalate channels) .nil)
    simpa [String.toList_intercalate] using written

end Color

def gradientNames : List String := ["linear-gradient", "radial-gradient", "conic-gradient"]

def IsGradientText (text : List Char) : Prop :=
  ∃ name ∈ gradientNames, ∃ inside, Balanced inside ∧ text = name.toList ++ '(' :: (inside ++ [')'])

theorem Paint.stopsText_balanced (p : Paint) : Balanced p.stopsText.toList := by
  rw [stopsText, String.toList_intercalate]
  apply comma_balanced.intercalate
  intro piece member
  simp only [List.map_map, List.mem_map] at member
  obtain ⟨stop, _, rfl⟩ := member
  have blank : Balanced " ".toList := balanced_of_plain (List.all_eq_true.1 rfl)
  have percent : Balanced "%".toList := balanced_of_plain (List.all_eq_true.1 rfl)
  simp only [Function.comp_apply, String.toList_append]
  exact (((stop.color.css_balanced _).append blank).append (Decimal.measureText_balanced _)).append
    percent

theorem Paint.gradient?_isGradientText {p : Paint} {text : String} (gradient : p.gradient? = some text) :
    IsGradientText text.toList := by
  unfold gradient? at gradient
  split at gradient
  · cases gradient
  · split at gradient
    · cases gradient
      exact ⟨"radial-gradient", by decide, p.stopsText.toList, p.stopsText_balanced, by simp⟩
    · split at gradient
      · cases gradient
        exact ⟨"conic-gradient", by decide, p.stopsText.toList, p.stopsText_balanced, by simp⟩
      · cases gradient
        have turned : Balanced "deg, ".toList := balanced_of_plain (List.all_eq_true.1 rfl)
        have angle := Decimal.measureText_balanced (p.gradientAngle.getD 180.0)
        exact ⟨"linear-gradient", by decide, _, (angle.append turned).append p.stopsText_balanced,
          by simp⟩

theorem gradientName_plain {name : String} (isName : name ∈ gradientNames) :
    ∀ c ∈ name.toList, (c != '(') = true := by
  simp only [gradientNames, List.mem_cons, List.not_mem_nil, or_false] at isName
  rcases isName with rfl | rfl | rfl
  · exact List.all_eq_true.1 rfl
  · exact List.all_eq_true.1 rfl
  · exact List.all_eq_true.1 rfl

theorem gradientText_split {a b s t : List Char} (first : IsGradientText a) (second : IsGradientText b)
    (same : a ++ s = b ++ t) : a = b ∧ s = t := by
  obtain ⟨name, isName, inside, balanced, rfl⟩ := first
  obtain ⟨other, isOther, inside', balanced', rfl⟩ := second
  simp only [List.append_assoc, List.cons_append, List.nil_append] at same
  obtain ⟨names, after⟩ := token_split (gradientName_plain isName) (gradientName_plain isOther)
    (stops_cons (by decide)) (stops_cons (by decide)) same
  obtain ⟨rfl, rfl⟩ := balanced.closed_split balanced' (List.cons.inj after).2
  rw [names]
  exact ⟨rfl, rfl⟩

end DesignMarkup
