import DesignMarkup.Layer.Decode
import DesignMarkup.Proofs.Dict
import DesignMarkup.Proofs.Element.RoundTrip
import DesignMarkup.Proofs.Json.Agreement
/-!
The children of a layer are read one by one, and what one of them is changes nothing else of the layer
that is read.
-/
namespace DesignMarkup
open Json Decode Shape

namespace Json

def itemsOf : Json → List Json
  | .array items => items
  | _ => []

def onItems (h : List Json → List Json) : Json → Json
  | .array items => .array (h items)
  | v => v

/-- Changes what is written as the children of a layer: under a key in an object, and at a place in
an array. -/
def onChildren (h : List Json → List Json) : Json → Json
  | .object fields => .object (Dict.adjust "children" (onItems h) fields)
  | .array values => .array (values.modify 4 (onItems h))
  | v => v

def childrenValue? : Json → Option Json
  | .object fields => Dict.get? fields "children"
  | .array values => values[4]?
  | _ => none

def childItems (v : Json) : List Json := v.childrenValue?.elim [] itemsOf

theorem onChildren_self (v : Json) : onChildren (fun items => items) v = v := by
  have same : onItems (fun items => items) = id := by
    funext w
    cases w <;> rfl
  cases v with
  | object fields => rw [onChildren, same, Dict.adjust_id]
  | array values => rw [onChildren, same, List.modify_id]
  | null | bool | int | float | string => rfl

theorem height_itemsOf {v item : Json} (member : item ∈ v.itemsOf) : item.height < v.height := by
  cases v with
  | array items => exact height_lt_array member
  | object | null | bool | int | float | string => exact nomatch member

theorem height_childItems {v child : Json} (member : child ∈ v.childItems) : child.height < v.height := by
  unfold childItems at member
  cases found : v.childrenValue? with
  | none => simp [found] at member
  | some w =>
    rw [found] at member
    refine (height_itemsOf member).trans ?_
    cases v with
    | object fields => exact height_lt_object "children" (Dict.mem_of_get? found)
    | array values => exact height_lt_array (List.mem_of_getElem? found)
    | null | bool | int | float | string => exact nomatch found

end Json

namespace Layer

/-- Reads a child so that nothing is refused. -/
def lenient (read : Origin → Json → Layer) : Decoder Layer := fun o v => .ok (read o v)

theorem itemsFrom_lenient (read : Origin → Json → Layer) (o : Origin) (i : Nat) (items : List Json) :
    itemsFrom (lenient read) o i items = .ok (items.map (read o)) := by
  induction items generalizing i with
  | nil => rfl
  | cons v rest ih =>
    rw [itemsFrom, ih]
    rfl

/-- From records that differ in the children only, layers are read that differ in them only. -/
theorem follows_shape {o : Origin} {r r' : Record} {read read' : Decoder Layer} {a b : List Layer}
    (aside : r.Aside "children" 4 r')
    (children : Agree (fun x y => x = a ∧ y = b)
      ((withDefault "children" [] (nullableList read)).check o 4 r)
      ((withDefault "children" [] (nullableList read')).check o 4 r')) :
    Follows o r r' 34 (fun l l' => l.children = a ∧ l.fault = none ∧ l' = { l with children := b })
      (shape read) (shape read') := by
  unfold shape
  -- The children are the fifth field; the 29 fields behind and the four before read the same.
  refine Follows.seq_pure ?_
  iterate 29 refine Follows.same aside (by decide) (by decide) ?_
  refine Follows.seq children ?_
  iterate 4 refine Follows.same aside (by decide) (by decide) ?_
  refine follows_pure ?_
  rintro _ _ _ _ _ _ ⟨rfl, rfl⟩
  intros
  exact ⟨rfl, rfl, rfl⟩

section
variable (read read' : Origin → Json → Layer) {h : List Json → List Json} (empty : h [] = [])
  (o : Origin)
include empty

theorem agree_nullableList (v : Json) :
    Agree (fun a b => a = v.itemsOf.map (read o) ∧ b = (h v.itemsOf).map (read' o))
      (nullableList (lenient read) o v) (nullableList (lenient read') o (onItems h v)) := by
  cases v with
  | null =>
    have none : [] = (h (itemsOf .null)).map (read' o) := (congrArg (List.map (read' o)) empty).symm
    exact .ok ⟨rfl, none⟩
  | array items =>
    simp only [nullableList, nullable, list, onItems, itemsFrom_lenient]
    exact .ok ⟨rfl, rfl⟩
  | object | bool | int | float | string => exact .error _

theorem decode_onChildren (v : Json) :
    Agree (fun l l' => l.children = v.childItems.map (read o) ∧ l.fault = none ∧
        l' = { l with children := (h v.childItems).map (read' o) })
      (Shape.decode "RawNode" (shape (lenient read)) o v)
      (Shape.decode "RawNode" (shape (lenient read')) o (onChildren h v)) := by
  have nothing : [] = (h []).map (read' o) := (congrArg (List.map (read' o)) empty).symm
  cases v with
  | object fields =>
    refine (follows_shape ?_ ?_).decode_object "RawNode"
    · exact ⟨(Dict.keys_adjust ..).symm, fun key other => by simp [Dict.get?_adjust, other]⟩
    · simp only [withDefault, field, Dict.get?_adjust, Dict.keys_adjust, childItems, childrenValue?]
      cases Dict.get? fields "children" with
      | none => exact .ok ⟨rfl, nothing⟩
      | some w => exact agree_reported (agree_nullableList read read' empty o w) _ _
  | array values =>
    refine (follows_shape ?_ ?_).decode_array "RawNode" (List.length_modify ..).symm
    · exact fun i other => by simp [Ne.symm other]
    · simp only [withDefault, field, List.getElem?_modify, childItems, childrenValue?]
      cases values[4]? with
      | none => exact .ok ⟨rfl, nothing⟩
      | some w => exact agree_reported (agree_nullableList read read' empty o w) _ _
  | null | bool | int | float | string => exact .error _

end

def readWithin (n : Nat) (o : Origin) (v : Json) : Layer := orRecovered v (decodeWithin n o v)

def readChild (o : Origin) (v : Json) : Layer := orRecovered v (decode o v)

theorem decode_congr (read read' : Origin → Json → Layer) {o : Origin} {v : Json}
    (same : ∀ child ∈ v.childItems, read o child = read' o child) :
    Shape.decode "RawNode" (shape (lenient read)) o v =
      Shape.decode "RawNode" (shape (lenient read')) o v := by
  have agree := decode_onChildren read read' (h := fun items => items) rfl o v
  rw [onChildren_self] at agree
  refine agree.eq fun l l' ⟨children, _, changed⟩ => ?_
  rw [changed, ← List.map_congr_left same, ← children]
  cases l
  rfl

theorem decodeWithin_eq {n m : Nat} {o : Origin} {v : Json} (low : v.height ≤ n) (low' : v.height ≤ m) :
    decodeWithin n o v = decodeWithin m o v := by
  induction n generalizing m v with
  | zero => exact absurd v.height_pos (Nat.not_lt.2 low)
  | succ n ih =>
    cases m with
    | zero => exact absurd v.height_pos (Nat.not_lt.2 low')
    | succ m =>
      refine decode_congr (readWithin n) (readWithin m) fun child member => ?_
      have smaller := height_childItems member
      rw [readWithin, readWithin, ih (m := m) (by omega) (by omega)]

theorem decode_eq (o : Origin) (v : Json) :
    decode o v = Shape.decode "RawNode" (shape (lenient readChild)) o v := by
  obtain ⟨n, height⟩ := Nat.exists_eq_succ_of_ne_zero v.height_pos.ne'
  rw [decode, height]
  refine decode_congr (readWithin n) readChild fun child member => ?_
  have smaller := height_childItems member
  rw [readWithin, readChild, decode, decodeWithin_eq (by omega) (Nat.le_refl child.height)]

theorem decode_ok {o : Origin} {v : Json} {l : Layer} (read : decode o v = .ok l) :
    l.children = v.childItems.map (readChild o) ∧ l.fault = none := by
  have agree := decode_onChildren readChild readChild (h := fun items => items) rfl o v
  rw [← decode_eq, read] at agree
  obtain ⟨_, _, children, sound, _⟩ := agree.of_ok
  exact ⟨children, sound⟩

theorem decode_changed {h : List Json → List Json} (empty : h [] = []) {o : Origin} {v : Json} {l : Layer}
    (read : decode o v = .ok l) : decode o (v.onChildren h) =
      .ok { l with children := (h v.childItems).map (readChild o) } := by
  have agree := decode_onChildren readChild readChild empty o v
  rw [← decode_eq, ← decode_eq, read] at agree
  obtain ⟨_, changed, _, _, rfl⟩ := agree.of_ok
  exact changed

end Layer
end DesignMarkup
