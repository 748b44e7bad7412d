import DesignMarkup.Layer.Document
import DesignMarkup.Proofs.Layer.Lenient
import DesignMarkup.Proofs.Layer.Path
/-!
Damage stays where it is. Whatever is written in the place of a layer below the root, the design is
read, and as the same design but for that layer; and the elements of all layers apart from it stay the
same.
-/
namespace DesignMarkup
open Json

namespace Json

def textAt (v : Json) (key : String) : String :=
  match v.get? key with
  | some (.string s) => s
  | _ => ""

def flagAt (v : Json) (key : String) (default : Bool) : Bool :=
  match v.get? key with
  | some (.bool b) => b
  | _ => default

def replaceAt : Json → List Nat → Json → Json
  | _, [], new => new
  | v, i :: path, new => v.onChildren (·.modify i (replaceAt · path new))

/-- Changes the tree of a document, where it may stand in a wrapper. -/
def onTree (f : Json → Json) : Json → Json
  | .object fields =>
    if (Dict.get? fields "document").isSome then .object (Dict.adjust "document" f fields)
    else f (.object fields)
  | v => f v

end Json

namespace Layer

/-- The layer that a child is read as: it is parsed, or else the four fields are recovered that can be
told of any value, and nothing but these and the reason. -/
inductive ReadFrom (v : Json) (l : Layer) : Prop where
  | parsed (read : decode .direct v = .ok l) (sound : l.fault = none)
  | recovered (e : Refusal) (refused : decode .direct v = .error e)
    (same : l = { id := v.textAt "id", name := v.textAt "name", kind := v.textAt "type",
                  visible := v.flagAt "visible" true, fault := some e.message })

theorem recovered_eq (v : Json) (fault : String) :
    recovered v fault = { id := v.textAt "id", name := v.textAt "name", kind := v.textAt "type",
                          visible := v.flagAt "visible" true, fault := some fault } := by
  have text (key : String) : ((v.get? key).bind asString?).getD "" = v.textAt key := by
    unfold textAt
    cases v.get? key with
    | none => rfl
    | some w => cases w <;> rfl
  have flag : ((v.get? "visible").bind asBool?).getD true = v.flagAt "visible" true := by
    unfold flagAt
    cases v.get? "visible" with
    | none => rfl
    | some w => cases w <;> rfl
  simp only [recovered, text, flag]

theorem readChild_readFrom (v : Json) : ReadFrom v (readChild .direct v) := by
  unfold readChild
  cases read : decode .direct v with
  | ok l => exact .parsed read (decode_ok read).2
  | error e => exact .recovered e read (recovered_eq v e.message)

theorem read_of_below {o : Origin} {v : Json} {i : Nat} {path : List Nat} {old : Layer}
    (found : (readChild o v).below? (i :: path) = some old) : decode o v = .ok (readChild o v) := by
  unfold readChild at *
  cases read : decode o v with
  | ok l => rfl
  | error e =>
    rw [read] at found
    exact nomatch found

theorem decode_replaceAt {o : Origin} {v new : Json} {i : Nat} {path : List Nat} {old : Layer}
    (found : (readChild o v).below? (i :: path) = some old)
    (child : ∀ w, (readChild o w).below? path = some old →
      readChild o (w.replaceAt path new) = (readChild o w).replaceAt path (readChild o new)) :
    decode o (v.replaceAt (i :: path) new) =
      .ok ((readChild o v).replaceAt (i :: path) (readChild o new)) := by
  have read := read_of_below found
  have children := (decode_ok read).1
  have changed := decode_changed (h := (·.modify i (Json.replaceAt · path new))) (List.modify_nil ..) read
  rw [Json.replaceAt, changed, Layer.replaceAt, children]
  refine congrArg (fun items => Except.ok { readChild o v with children := items }) ?_
  rw [below?, children, List.getElem?_map] at found
  obtain ⟨_, here, below⟩ := Option.bind_eq_some_iff.1 found
  obtain ⟨w, item, rfl⟩ := Option.map_eq_some_iff.1 here
  exact map_modify item (child w below)

theorem readChild_replaceAt {o : Origin} {v new : Json} {path : List Nat} {old : Layer}
    (found : (readChild o v).below? path = some old) :
    readChild o (v.replaceAt path new) = (readChild o v).replaceAt path (readChild o new) := by
  induction path generalizing v with
  | nil => rfl
  | cons i path ih =>
    have changed := decode_replaceAt found fun w => ih (v := w)
    rw [readChild, changed]
    rfl

theorem unwrap_replaceAt {v new : Json} {i : Nat} {path : List Nat}
    (bare : v.get? "document" = none) :
    unwrap (v.replaceAt (i :: path) new) = v.replaceAt (i :: path) new := by
  have still : (v.replaceAt (i :: path) new).get? "document" = none := by
    cases v with
    | object fields =>
      have none : Dict.get? fields "document" = none := bare
      simp only [Json.replaceAt, onChildren, Json.get?, Dict.get?_adjust, none, Option.map_none]
    | array | null | bool | int | float | string => rfl
  rw [unwrap, still, Option.getD_none]

theorem unwrap_onTree (v new : Json) (i : Nat) (path : List Nat) :
    unwrap (v.onTree (·.replaceAt (i :: path) new)) = (unwrap v).replaceAt (i :: path) new := by
  cases v with
  | object fields =>
    rw [onTree]
    cases found : Dict.get? fields "document" with
    | none =>
      have bare : (Json.object fields).get? "document" = none := found
      rw [if_neg (by simp), unwrap_replaceAt bare, unwrap, bare, Option.getD_none]
    | some tree =>
      simp only [unwrap, Json.get?, Dict.get?_adjust, found, Option.isSome_some, Option.map_some,
        if_true, Option.getD_some]
  | array | null | bool | int | float | string => exact unwrap_replaceAt rfl

end Layer

/-- Whatever is written in the place of a layer below the root, the design is read, with the layer
that is read from it in this place and else as before; and no configuration emits another element for
a layer that is neither the replaced one nor above or below it. -/
theorem damage_stays_local {v : Json} {root old : Layer} {path : List Nat}
    (parsed : Layer.ofJson v = .ok root) (below : path ≠ []) (found : root.below? path = some old)
    (new : Json) :
    ∃ child, Layer.ReadFrom new child ∧
      Layer.ofJson (v.onTree (·.replaceAt path new)) = .ok (root.replaceAt path child) ∧
      ∀ q, Apart path q →
        (root.replaceAt path child).below? q = root.below? q ∧
        ∀ c : Config, Layer.elementOf? c (root.replaceAt path child) q = Layer.elementOf? c root q := by
  obtain ⟨i, path, rfl⟩ := List.exists_cons_of_ne_nil below
  have read : Layer.readChild .direct (Layer.unwrap v) = root := by
    unfold Layer.ofJson at parsed
    unfold Layer.readChild
    split at parsed
    · rename_i read
      rw [read]
      exact Except.ok.inj parsed
    · exact nomatch parsed
  refine ⟨Layer.readChild .direct new, Layer.readChild_readFrom new, ?_, fun q apart => ⟨?_, fun c => ?_⟩⟩
  · rw [← read] at found ⊢
    rw [Layer.ofJson, Layer.unwrap_onTree,
      Layer.decode_replaceAt found fun w => Layer.readChild_replaceAt (v := w)]
  · exact Layer.below?_replaceAt apart root _
  · exact Layer.elementOf?_replaceAt c apart root _

def labelJson (id characters : String) : Json :=
  .object [("characters", .string characters), ("id", .string id), ("type", .string "TEXT")]

def frameJson (id : String) (children : List Json) : Json :=
  .object [("absoluteBoundingBox",
      .object [("height", .int 20), ("width", .int 40), ("x", .int 0), ("y", .int 0)]),
    ("children", .array children), ("id", .string id), ("type", .string "FRAME")]

def labelLayer (id characters : String) : Layer where
  id := id
  kind := "TEXT"
  characters := some characters

def frameLayer (id : String) (children : List Layer) : Layer where
  id := id
  kind := "FRAME"
  bounds := some ⟨.ofInt 0, .ofInt 0, .ofInt 40, .ofInt 20⟩
  children := children

def menuJson (second : Json) : Json :=
  .object [("document", frameJson "0:1" [labelJson "1:1" "Edit",
    frameJson "1:2" [second, labelJson "1:4" "Cut"]])]

def menu (second : Layer) : Layer :=
  frameLayer "0:1" [labelLayer "1:1" "Edit", frameLayer "1:2" [second, labelLayer "1:4" "Cut"]]

def brokenJson : Json :=
  .object [("id", .int 7), ("name", .string "Broken"), ("visible", .bool false)]

theorem brokenJson_read {l : Layer} (read : Layer.ReadFrom brokenJson l) :
    l.caption = ⟨"Broken", "", none⟩ ∧ l.visible = false ∧ l.fault.isSome := by
  cases read with
  | parsed read => exact nomatch read
  | recovered e refused same =>
    rw [same]
    exact ⟨rfl, rfl, rfl⟩

theorem broken_copy_stays_local :
    Layer.ofJson (menuJson (labelJson "1:3" "Copy")) = .ok (menu (labelLayer "1:3" "Copy")) ∧
    ((menu (labelLayer "1:3" "Copy")).below? [1, 0] = some (labelLayer "1:3" "Copy")) ∧
    (Layer.elementOf? {} (menu (labelLayer "1:3" "Copy")) [1, 1]).bind Element.text? = some "Cut" ∧
    ∃ broken, broken.caption = ⟨"Broken", "", none⟩ ∧ broken.visible = false ∧ broken.fault.isSome ∧
      Layer.ofJson (menuJson brokenJson) = .ok (menu broken) ∧
      ∀ c : Config, Layer.elementOf? c (menu broken) [1, 1] =
        Layer.elementOf? c (menu (labelLayer "1:3" "Copy")) [1, 1] := by
  have parsed : Layer.ofJson (menuJson (labelJson "1:3" "Copy")) =
      .ok (menu (labelLayer "1:3" "Copy")) := rfl
  have found : (menu (labelLayer "1:3" "Copy")).below? [1, 0] = some (labelLayer "1:3" "Copy") := rfl
  obtain ⟨broken, read, damaged, others⟩ :=
    damage_stays_local parsed (by decide) found brokenJson
  obtain ⟨caption, hidden, fault⟩ := brokenJson_read read
  exact ⟨parsed, found, rfl, broken, caption, hidden, fault, damaged,
    (others [1, 1] (by unfold Apart; decide)).2⟩

end DesignMarkup
